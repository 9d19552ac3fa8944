import Companion.Proofs.Source.Keywords
import Mathlib.Data.List.Nodup

/-!
# What the names in a body mean

The body of a method looks names up where it stands: first among those of the method itself, where
its parameters are, and only then among those of the companion (`meaning?`). What the subject calls
its parameters is free, and so a parameter can stand between a name and what is meant by it. This
file says when each of the names still means what it was written for (`names_kept`):

> **the field always**, for it is selected where a parameter has its name, **the guard and the
> accessor as long as no parameter is named like them**.

Nothing keeps a parameter from that, and then the body means the parameter, or nothing at all
(`names_captured`). A type parameter is in the way just as much, of the field as well.

Names are looked up by what they spell, without an `@`. The companion's own scope is taken to hold
the field and the guard; that another member has the name of one of them is not looked at here.
-/

namespace Companion.Source

open Identifier (denoted)

/-! ## Looking names up -/

/-- The names of one scope, each with what it is declared for. -/
abbrev Scope := List (String × Entity)

/-- What a name means in some scopes, from the innermost outwards. The first that declares the name
    decides, and where it does so more than once the name means nothing. -/
def meaning? : List Scope → String → Option Entity
  | [], _ => none
  | scope :: outer, name =>
    match scope.filter (·.1 == name) with
    | [] => meaning? outer name
    | [declared] => some declared.2
    | _ :: _ :: _ => none

section

variable {scope : Scope} {outer : List Scope} {name : String} {e : Entity}

theorem meaning?_of_not_mem (h : name ∉ scope.map (·.1)) :
    meaning? (scope :: outer) name = meaning? outer name := by
  have hnone : scope.filter (·.1 == name) = [] := by
    refine List.filter_eq_nil_iff.mpr fun declared hdeclared heq => h ?_
    exact List.mem_map.mpr ⟨declared, hdeclared, eq_of_beq heq⟩
  rw [meaning?, hnone]

/-- A meaning that is found where the name is declared is declared there. -/
theorem mem_of_meaning?_eq (hname : name ∈ scope.map (·.1))
    (h : meaning? (scope :: outer) name = some e) : (name, e) ∈ scope := by
  obtain ⟨declared, hdeclared, rfl⟩ := List.mem_map.mp hname
  have hfound : declared ∈ scope.filter (·.1 == declared.1) :=
    List.mem_filter.mpr ⟨hdeclared, beq_self_eq_true _⟩
  rw [meaning?] at h
  split at h
  · next hnone =>
    rw [hnone] at hfound
    cases hfound
  · next found hone =>
    rw [hone, List.mem_singleton] at hfound
    cases h
    rw [← hfound]
    exact hdeclared
  · cases h

/-- A name that is declared in a scope has its meaning there exactly if it is declared once. -/
theorem meaning?_eq_iff_of_mem (h : (name, e) ∈ scope) :
    meaning? (scope :: outer) name = some e ↔ (scope.map (·.1)).count name = 1 := by
  have hcount : (scope.map (·.1)).count name = (scope.filter (·.1 == name)).length := by
    rw [List.count, List.countP_map, List.countP_eq_length_filter]
    rfl
  have hfound : (name, e) ∈ scope.filter (·.1 == name) :=
    List.mem_filter.mpr ⟨h, beq_self_eq_true _⟩
  rw [hcount, meaning?]
  split
  · next hnone =>
    rw [hnone] at hfound
    cases hfound
  · next declared hone =>
    rw [hone, List.mem_singleton] at hfound
    simp [hone, ← hfound]
  · next hmore => simp [hmore]

/-- A name keeps the meaning that it has outside, unless it is declared in between. -/
theorem meaning?_eq_iff_of_not_mem (h : (name, e) ∉ scope) (houter : meaning? outer name = some e) :
    meaning? (scope :: outer) name = some e ↔ name ∉ scope.map (·.1) := by
  constructor
  · exact fun hmeaning hname => h (mem_of_meaning?_eq hname hmeaning)
  · exact fun hname => (meaning?_of_not_mem hname).trans houter

end

/-! ## The scopes of a body -/

/-- What a piece declares, under the name that it spells. -/
def Piece.declaration? : Piece → Option (String × Entity)
  | .declares entity spelling => some (denoted spelling, entity)
  | _ => none

def declarations (pieces : List Piece) : Scope :=
  pieces.filterMap Piece.declaration?

/-- What the companion declares for its own use. -/
def companionScope : Scope :=
  [(backingField, .field), (guardName, .guard)]

/-- The scope of a method's body: what is declared at the head of the method, which itself belongs to
    the companion, and of the accessor its name. -/
def bodyScope (targetType : String) (m : MethodDescriptor) : Scope :=
  (declarations (methodHeader m)).filter (·.2 ≠ .member)
    ++ (declarations (methodAccessorPieces targetType m)).filter (·.2 = .accessor)

/-- The identifiers that a method's type parameters and parameters have. -/
def identifiers (m : MethodDescriptor) : List String :=
  m.typeParameters.map (fun p => denoted p.name) ++ m.parameters.map fun p => denoted p.name

@[simp] theorem declarations_plain (text : String) (rest : List Piece) :
    declarations (.plain text :: rest) = declarations rest := rfl

@[simp] theorem declarations_declares (e : Entity) (s : String) (rest : List Piece) :
    declarations (.declares e s :: rest) = (denoted s, e) :: declarations rest := rfl

@[simp] theorem declarations_nil : declarations [] = [] := rfl

@[simp] theorem declarations_append (a b : List Piece) :
    declarations (a ++ b) = declarations a ++ declarations b :=
  List.filterMap_append

theorem declarations_constraintPieces (ps : List TypeParameterDescriptor) :
    declarations (ps.flatMap constraintPieces) = [] := by
  refine List.filterMap_eq_nil_iff.mpr fun piece hpiece => ?_
  obtain ⟨text, rfl⟩ | ⟨p, -, rfl⟩ := eq_of_mem_constraintPieces hpiece
  · rfl
  · rfl

theorem declarations_signaturePieces (front : String) (e : Entity) (s : String)
    (ps : List TypeParameterDescriptor) (parameters : List (List Piece)) :
    declarations (signaturePieces front (.declares e s) ps parameters)
      = (denoted s, e) :: ps.map (fun p => (denoted p.name, .typeParameter p.name))
        ++ parameters.flatMap declarations := by
  have htypes : declarations (typeParameterPieces .declares ps)
      = ps.map fun p => (denoted p.name, .typeParameter p.name) :=
    filterMap_typeParameterPieces (f := Piece.declaration?) (fun _ => rfl) (fun _ => rfl) ps
  have hcommas : declarations (commas parameters) = parameters.flatMap declarations :=
    filterMap_commas (fun _ => rfl) parameters
  simp only [signaturePieces, declarations_append, htypes, hcommas, declarations_constraintPieces]
  simp

theorem denoted_call (name : String) : denoted ("Call" ++ name) = "Call" ++ name :=
  Identifier.denoted_of_head (by simp)

theorem flatMap_declarations_parameters (ps : List ParameterDescriptor) :
    (ps.map parameterPieces).flatMap declarations
      = ps.map fun p => (denoted p.name, .parameter p.name) := by
  have hparameter : ∀ p, declarations (parameterPieces p) = [(denoted p.name, .parameter p.name)] :=
    fun p => by simp [parameterPieces, Identifier.denoted_escaped]
  simp only [List.flatMap_map, hparameter]
  exact List.map_eq_flatMap.symm

/-- In a method's body there are its type parameters, its parameters and the accessor. -/
theorem bodyScope_eq (targetType : String) (m : MethodDescriptor) :
    bodyScope targetType m
      = m.typeParameters.map (fun p => (denoted p.name, .typeParameter p.name))
        ++ m.parameters.map (fun p => (denoted p.name, .parameter p.name))
        ++ [("Call" ++ m.name, .accessor)] := by
  have hreceiver : declarations (receiverPieces targetType (receiverName m.parameters))
      = [(denoted (receiverName m.parameters), .receiver)] := rfl
  rw [bodyScope, methodHeader, methodAccessorPieces, declarations_signaturePieces,
    declarations_signaturePieces, List.flatMap_cons, hreceiver, flatMap_declarations_parameters,
    denoted_call]
  simp [List.filter_map, Function.comp_def]

theorem map_fst_bodyScope (targetType : String) (m : MethodDescriptor) :
    (bodyScope targetType m).map (·.1) = identifiers m ++ ["Call" ++ m.name] := by
  simp [bodyScope_eq, identifiers, Function.comp_def]

/-! ## What a body looks up -/

/-- What a method's body does, line by line: the guard and the call. -/
def statements (m : MethodDescriptor) : List Piece :=
  (if m.modifiers.isStatic then [] else guardPieces) ++ methodCall m

/-- For a name that is looked up: what it is the name of, and what it means. -/
def Piece.lookup? (scope : Scope) : Piece → Option (Entity × Option Entity)
  | .uses entity spelling => some (entity, meaning? [scope, companionScope] (denoted spelling))
  | .selects entity spelling => some (entity, meaning? [companionScope] (denoted spelling))
  | _ => none

@[simp] theorem Piece.lookup?_plain (scope : Scope) (text : String) :
    (Piece.plain text).lookup? scope = none := rfl

@[simp] theorem Piece.lookup?_uses (scope : Scope) (e : Entity) (s : String) :
    (Piece.uses e s).lookup? scope = some (e, meaning? [scope, companionScope] (denoted s)) := rfl

@[simp] theorem Piece.lookup?_selects (scope : Scope) (e : Entity) (s : String) :
    (Piece.selects e s).lookup? scope = some (e, meaning? [companionScope] (denoted s)) := rfl

def lookups (targetType : String) (m : MethodDescriptor) : List (Entity × Option Entity) :=
  (statements m).filterMap (Piece.lookup? (bodyScope targetType m))

/-- Wherever a method's body names the entity, that is what the name means. -/
def Kept (targetType : String) (m : MethodDescriptor) (e : Entity) : Prop :=
  ∀ found, (e, found) ∈ lookups targetType m → found = some e

theorem denoted_guardName : denoted guardName = guardName :=
  Identifier.denoted_of_head (by decide +kernel)

theorem denoted_backingField : denoted backingField = backingField :=
  Identifier.denoted_of_head (by decide +kernel)

section

variable {targetType : String} {m : MethodDescriptor}

/-- What a name means in the body. -/
abbrev bodyMeaning? (targetType : String) (m : MethodDescriptor) (name : String) : Option Entity :=
  meaning? [bodyScope targetType m, companionScope] name

/-- A receiver that is selected is looked for past the body. -/
theorem lookups_receiver (hinstance : m.modifiers.isStatic = false) :
    (methodReceiverPieces m).filterMap (Piece.lookup? (bodyScope targetType m))
      = [(.field,
          if ∃ p ∈ m.parameters, p.name = backingField then some .field
          else bodyMeaning? targetType m backingField)] := by
  have hselected : meaning? [companionScope] backingField = some .field := by decide +kernel
  unfold methodReceiverPieces
  rw [hinstance]
  by_cases h : ∃ p ∈ m.parameters, p.name = backingField
  · simp [h, List.filterMap_cons, denoted_backingField, hselected]
  · simp [h, denoted_backingField]

/-- **What the body of an instance method looks up**: the guard, the accessor and its type arguments,
    the field, and the arguments. -/
theorem lookups_eq (hinstance : m.modifiers.isStatic = false) :
    lookups targetType m
      = [(.guard, bodyMeaning? targetType m guardName),
          (.accessor, bodyMeaning? targetType m ("Call" ++ m.name))]
        ++ m.typeParameters.map (fun p =>
          (.typeParameter p.name, bodyMeaning? targetType m (denoted p.name)))
        ++ [(.field,
          if ∃ p ∈ m.parameters, p.name = backingField then some .field
          else bodyMeaning? targetType m backingField)]
        ++ m.parameters.map fun p =>
          (.parameter p.name, bodyMeaning? targetType m (denoted p.name)) := by
  have htypes : (typeParameterPieces .uses m.typeParameters).filterMap
      (Piece.lookup? (bodyScope targetType m))
      = m.typeParameters.map fun p =>
        (.typeParameter p.name, bodyMeaning? targetType m (denoted p.name)) :=
    filterMap_typeParameterPieces (f := Piece.lookup? _) (fun _ => rfl) (fun _ => rfl) _
  have hargument : ∀ p, (argumentPieces p).filterMap (Piece.lookup? (bodyScope targetType m))
      = [(.parameter p.name, bodyMeaning? targetType m (denoted p.name))] := fun p => by
    simp [argumentPieces, List.filterMap_cons, Identifier.denoted_escaped]
  rw [lookups, statements, methodCall, callPieces, hinstance]
  simp only [Bool.false_eq_true, if_false, List.filterMap_append, htypes,
    filterMap_commas (Piece.lookup?_plain _), List.flatMap_cons, lookups_receiver hinstance,
    List.flatMap_map, hargument]
  simp [guardPieces, List.filterMap_cons, denoted_guardName, denoted_call, List.map_eq_flatMap]

/-! ## What is kept -/

/-- A name of the companion is kept where no parameter has it, since it is none of an accessor. -/
theorem bodyMeaning?_companion {name : String} {e : Entity}
    (houter : meaning? [companionScope] name = some e)
    (hlocal : (name, e) ∉ bodyScope targetType m) (haccessor : name ≠ "Call" ++ m.name) :
    bodyMeaning? targetType m name = some e ↔ name ∉ identifiers m := by
  rw [bodyMeaning?, meaning?_eq_iff_of_not_mem hlocal houter, map_fst_bodyScope]
  simp [haccessor]

theorem ne_call {name : String} {c : Char} (h : name.toList.head? = some c) (hc : c ≠ 'C') :
    name ≠ "Call" ++ m.name := by
  rintro rfl
  exact hc (by simpa using h.symm)

theorem kept_guard (hinstance : m.modifiers.isStatic = false) :
    Kept targetType m .guard ↔ guardName ∉ identifiers m := by
  have hlookup : Kept targetType m .guard
      ↔ bodyMeaning? targetType m guardName = some .guard := by
    simp [Kept, lookups_eq hinstance]
  rw [hlookup]
  exact bodyMeaning?_companion (by decide +kernel) (by simp [bodyScope_eq]) (ne_call rfl (by decide))

theorem kept_accessor (hinstance : m.modifiers.isStatic = false) :
    Kept targetType m .accessor ↔ "Call" ++ m.name ∉ identifiers m := by
  have hlookup : Kept targetType m .accessor
      ↔ bodyMeaning? targetType m ("Call" ++ m.name) = some .accessor := by
    simp [Kept, lookups_eq hinstance]
  have hmem : ("Call" ++ m.name, Entity.accessor) ∈ bodyScope targetType m := by simp [bodyScope_eq]
  rw [hlookup, bodyMeaning?, meaning?_eq_iff_of_mem hmem, map_fst_bodyScope, List.count_append]
  simp [List.count_eq_zero]

/-- The field is kept where it is selected, and where nothing has its name. -/
theorem kept_field (hinstance : m.modifiers.isStatic = false) :
    Kept targetType m .field
      ↔ (∃ p ∈ m.parameters, p.name = backingField) ∨ backingField ∉ identifiers m := by
  by_cases h : ∃ p ∈ m.parameters, p.name = backingField
  · simp [Kept, lookups_eq hinstance, h]
  · have hlookup : Kept targetType m .field
        ↔ bodyMeaning? targetType m backingField = some .field := by
      simp [Kept, lookups_eq hinstance, h]
    rw [hlookup, or_iff_right h]
    exact bodyMeaning?_companion (by decide +kernel) (by simp [bodyScope_eq])
      (ne_call rfl (by decide))

/-- Where all names are different, what the method itself declares is kept. -/
theorem bodyMeaning?_of_mem (hnodup : (identifiers m).Nodup)
    (hcall : "Call" ++ m.name ∉ identifiers m) {name : String} {e : Entity}
    (h : (name, e) ∈ bodyScope targetType m) : bodyMeaning? targetType m name = some e := by
  have hscope : ((bodyScope targetType m).map (·.1)).Nodup := by
    rw [map_fst_bodyScope]
    exact List.nodup_append_comm.mp (List.nodup_cons.mpr ⟨hcall, hnodup⟩)
  have hname : name ∈ (bodyScope targetType m).map (·.1) := List.mem_map.mpr ⟨_, h, rfl⟩
  exact (meaning?_eq_iff_of_mem h).mpr (List.count_eq_one_of_mem hscope hname)

/-- Of an instance method whose own names are all different, everything is kept if the names of the
    companion and of the accessor are. -/
theorem kept_of_nodup (hinstance : m.modifiers.isStatic = false) (hnodup : (identifiers m).Nodup)
    (hguard : Kept targetType m .guard) (haccessor : Kept targetType m .accessor)
    (hfield : Kept targetType m .field) (e : Entity) : Kept targetType m e := by
  have hcall := (kept_accessor hinstance).mp haccessor
  cases e with
  | guard => exact hguard
  | accessor => exact haccessor
  | field => exact hfield
  | member | receiver => simp [Kept, lookups_eq hinstance]
  | typeParameter name =>
    intro found hfound
    obtain ⟨p, hp, rfl, rfl⟩ : ∃ p ∈ m.typeParameters, p.name = name
        ∧ bodyMeaning? targetType m (denoted p.name) = found := by
      simpa [lookups_eq hinstance] using hfound
    exact bodyMeaning?_of_mem hnodup hcall (by
      rw [bodyScope_eq]
      simpa using ⟨p, hp, rfl, rfl⟩)
  | parameter name =>
    intro found hfound
    obtain ⟨p, hp, rfl, rfl⟩ : ∃ p ∈ m.parameters, p.name = name
        ∧ bodyMeaning? targetType m (denoted p.name) = found := by
      simpa [lookups_eq hinstance] using hfound
    exact bodyMeaning?_of_mem hnodup hcall (by
      rw [bodyScope_eq]
      simpa using ⟨p, hp, rfl, rfl⟩)

end

theorem backingField_not_mem_identifiers {m : MethodDescriptor}
    (hparameters : ∀ p ∈ m.parameters, Identifier.isValid p.name = true)
    (htypes : ∀ p ∈ m.typeParameters, denoted p.name ≠ backingField)
    (hnone : ¬ ∃ p ∈ m.parameters, p.name = backingField) : backingField ∉ identifiers m := by
  intro hmem
  obtain hmem | hmem := List.mem_append.mp hmem
  · obtain ⟨p, hp, hname⟩ := List.mem_map.mp hmem
    exact htypes p hp hname
  · obtain ⟨p, hp, hname⟩ := List.mem_map.mp hmem
    rw [Identifier.denoted_of_isValid (hparameters p hp)] at hname
    exact hnone ⟨p, hp, hname⟩

/-- **Which names in the body of an instance method keep their meaning.** The guard and the accessor
    do exactly if no parameter, and no type parameter, is named like them. The field does if no type
    parameter is, for of a parameter that has its name it is told apart. If no two of the method's
    own names are alike, then with these three every name keeps its meaning. -/
theorem names_kept (targetType : String) (m : MethodDescriptor)
    (hinstance : m.modifiers.isStatic = false) :
    methodSteps targetType m = unmarkedMethodSteps targetType m
      ∧ (Kept targetType m .guard ↔ guardName ∉ identifiers m)
      ∧ (Kept targetType m .accessor ↔ "Call" ++ m.name ∉ identifiers m)
      ∧ (Kept targetType m .field
        ↔ (∃ p ∈ m.parameters, p.name = backingField) ∨ backingField ∉ identifiers m)
      ∧ ((∀ p ∈ m.parameters, Identifier.isValid p.name = true) →
        (∀ p ∈ m.typeParameters, denoted p.name ≠ backingField) → Kept targetType m .field)
      ∧ ((identifiers m).Nodup → ((∀ e, Kept targetType m e)
        ↔ Kept targetType m .guard ∧ Kept targetType m .accessor ∧ Kept targetType m .field)) := by
  refine ⟨methodSteps_eq targetType m, kept_guard hinstance, kept_accessor hinstance,
    kept_field hinstance, ?_, ?_⟩
  · intro hparameters htypes
    by_cases h : ∃ p ∈ m.parameters, p.name = backingField
    · exact (kept_field hinstance).mpr (.inl h)
    · exact (kept_field hinstance).mpr
        (.inr (backingField_not_mem_identifiers hparameters htypes h))
  · exact fun hnodup => ⟨fun hall => ⟨hall .guard, hall .accessor, hall .field⟩,
      fun ⟨hguard, haccessor, hfield⟩ => kept_of_nodup hinstance hnodup hguard haccessor hfield⟩

/-- A method with a parameter that is named like the field, and another like the accessor's receiver.
    All that its body means is kept. -/
theorem names_kept_aim :
    let aim : MethodDescriptor :=
      { name := "Aim", returnType := "void", modifiers := {}
        parameters :=
          [{ name := "_target", typeName := "Point", passing := .byValue },
            { name := "target", typeName := "T", passing := .byIn }]
        typeParameters := [{ name := "T", constraints := [] }] }
    aim.modifiers.isStatic = false ∧ identifiers aim = ["T", "_target", "target"]
      ∧ ∀ e, Kept "Bow" aim e := by
  intro aim
  have hidentifiers : identifiers aim = ["T", "_target", "target"] := by decide +kernel
  obtain ⟨-, hguard, haccessor, -, hfield, hall⟩ := names_kept "Bow" aim rfl
  refine ⟨rfl, hidentifiers, (hall ?_).mpr ⟨hguard.mpr ?_, haccessor.mpr ?_, hfield ?_ ?_⟩⟩
  · rw [hidentifiers]
    decide
  · rw [hidentifiers]
    decide +kernel
  · rw [hidentifiers]
    decide +kernel
  · decide +kernel
  · decide +kernel

/-- A method that can be forwarded to, with parameters of different names that are identifiers. One
    has the name of the guard, which the body calls; the other that of its own accessor. What the body
    means by the first name is the parameter, and the second means nothing there. -/
theorem names_captured :
    let stop : MethodDecl :=
      { name := "Stop"
        parameters :=
          [{ name := "ThrowInvalidOperationIfNotInitialized", type := .named "bool" },
            { name := "CallStop", type := .named "bool" }] }
    stop.isEligible = true ∧ stop.isStatic = false
      ∧ (stop.parameters.map (·.name)).Nodup
      ∧ (∀ p ∈ stop.parameters, Identifier.isValid p.name = true)
      ∧ bodyMeaning? "Motor" stop.describe "ThrowInvalidOperationIfNotInitialized"
        = some (.parameter "ThrowInvalidOperationIfNotInitialized")
      ∧ bodyMeaning? "Motor" stop.describe "CallStop" = none
      ∧ lookups "Motor" stop.describe =
        [(.guard, some (.parameter "ThrowInvalidOperationIfNotInitialized")), (.accessor, none),
          (.field, some .field),
          (.parameter "ThrowInvalidOperationIfNotInitialized",
            some (.parameter "ThrowInvalidOperationIfNotInitialized")),
          (.parameter "CallStop", none)] := by
  intro stop
  refine ⟨?_, rfl, ?_, ?_, ?_, ?_, ?_⟩ <;> decide +kernel

end Companion.Source
