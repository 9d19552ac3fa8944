import Companion.Model.Extract
import Companion.Proofs.Source.Marks

/-!
# Keywords among the names

An identifier may be a reserved keyword, and is one only behind an `@` then. This file goes through
all names in the text of a member (`PropertySpelling`, `MethodSpelling`) and says which of them can
still be a bare keyword:

> **type parameters, and nothing else** (`keywords_escaped`).

Names of members, parameters and arguments are escaped. Accessors begin with a capital, and no
keyword does; the receiver is `target` with underscores behind it. Names of type parameters are
written as they are, in lists and in clauses, so a type parameter that is named by a keyword is
declared as one (`typeParameter_unescaped`).

What is escaped can be told apart as before, since the `@` is no part of the name that is spelled
(`denoted_escaped`).
-/

namespace Companion

/-! ## Spellings of identifiers -/

namespace Identifier

/-- The name that is spelled: an `@` in front of it is no part of it. -/
def denoted (spelling : String) : String :=
  dropLeading "@" spelling

theorem denoted_at (name : String) : denoted ("@" ++ name) = name :=
  dropLeading_eq_iff.mpr (.inl rfl)

/-- Text that begins with another character spells itself. -/
theorem denoted_of_head {name : String} (h : name.toList.head? ≠ some '@') : denoted name = name := by
  refine dropLeading_eq_iff.mpr (.inr ⟨?_, rfl⟩)
  rintro ⟨rest, hrest⟩
  rw [← hrest] at h
  exact h rfl

theorem denoted_of_mem_keywords {word : String} (h : word ∈ keywords) : denoted word = word := by
  refine denoted_of_head fun hhead => ?_
  have hlower := isLower_of_mem_keywords h '@' (List.mem_of_head? hhead)
  exact absurd hlower (by decide)

theorem denoted_of_isValid {name : String} (h : isValid name = true) : denoted name = name := by
  refine denoted_of_head fun hhead => ?_
  obtain ⟨rest, hname⟩ := List.head?_eq_some_iff.mp hhead
  rw [isValid, hname, spells, Bool.and_eq_true] at h
  exact absurd h.1 (by decide +kernel)

/-- An escaped name spells what the name itself spells. -/
theorem denoted_escaped (name : String) : denoted (escaped name) = denoted name := by
  by_cases h : name ∈ keywords
  · rw [escaped_of_keyword h, denoted_at, denoted_of_mem_keywords h]
  · rw [escaped_of_not_keyword h]

/-- **Escaping keeps identifiers apart.** -/
theorem escaped_inj {a b : String} (ha : isValid a = true) (hb : isValid b = true)
    (h : escaped a = escaped b) : a = b := by
  have hdenoted := congrArg denoted h
  rwa [denoted_escaped, denoted_escaped, denoted_of_isValid ha, denoted_of_isValid hb] at hdenoted

/-- A text with a character in it that is no small letter is no keyword. -/
theorem not_mem_keywords_of_mem {word : String} {c : Char} (hc : c ∈ word.toList)
    (h : c.isLower = false) : word ∉ keywords := by
  intro hword
  rw [isLower_of_mem_keywords hword c hc] at h
  cases h

end Identifier

namespace Source

/-! ## The names in each part -/

@[simp] theorem names_parameterPieces (p : ParameterDescriptor) :
    names (parameterPieces p) = [(.parameter p.name, Identifier.escaped p.name)] := rfl

@[simp] theorem names_argumentPieces (p : ParameterDescriptor) :
    names (argumentPieces p) = [(.parameter p.name, Identifier.escaped p.name)] := rfl

@[simp] theorem names_receiverPieces (targetType name : String) :
    names (receiverPieces targetType name) = [(.receiver, name)] := rfl

section

variable {n : Entity × String} {ps : List TypeParameterDescriptor}

theorem mem_names_constraintPieces (h : n ∈ names (ps.flatMap constraintPieces)) :
    ∃ p ∈ ps, n = (.typeParameter p.name, p.name) := by
  obtain ⟨piece, hpiece, hname⟩ := List.mem_filterMap.mp h
  obtain ⟨text, rfl⟩ | ⟨p, hp, rfl⟩ := eq_of_mem_constraintPieces hpiece
  · cases hname
  · exact ⟨p, hp, (Option.some.inj hname).symm⟩

/-- A declaration has its own name, its type parameters and its parameters. The clauses behind it
    name type parameters again. -/
theorem mem_names_signaturePieces {front : String} {e : Entity} {s : String}
    {parameters : List (List Piece)} :
    n ∈ names (signaturePieces front (.declares e s) ps parameters)
      ↔ n = (e, s) ∨ (∃ p ∈ ps, n = (.typeParameter p.name, p.name))
        ∨ n ∈ parameters.flatMap names := by
  have hdeclared : names (typeParameterPieces .declares ps)
      = ps.map fun p => (.typeParameter p.name, p.name) :=
    filterMap_typeParameterPieces (f := Piece.name?) (fun _ => rfl) (fun _ => rfl) ps
  have hparts : n ∈ names (signaturePieces front (.declares e s) ps parameters)
      ↔ n = (e, s) ∨ (∃ p ∈ ps, (.typeParameter p.name, p.name) = n)
        ∨ n ∈ parameters.flatMap names ∨ n ∈ names (ps.flatMap constraintPieces) := by
    simp [signaturePieces, hdeclared, -List.mem_flatMap]
  rw [hparts]
  constructor
  · rintro (h | ⟨p, hp, rfl⟩ | h | h)
    · exact .inl h
    · exact .inr (.inl ⟨p, hp, rfl⟩)
    · exact .inr (.inr h)
    · exact .inr (.inl (mem_names_constraintPieces h))
  · rintro (h | ⟨p, hp, rfl⟩ | h)
    · exact .inl h
    · exact .inr (.inl ⟨p, hp, rfl⟩)
    · exact .inr (.inr (.inl h))

theorem mem_names_callPieces {hand : Hand} {accessor : String} {arguments : List (List Piece)} :
    n ∈ names (callPieces hand accessor ps arguments)
      ↔ n = (.accessor, accessor) ∨ (∃ p ∈ ps, n = (.typeParameter p.name, p.name))
        ∨ n ∈ arguments.flatMap names := by
  have hused : names (typeParameterPieces .uses ps)
      = ps.map fun p => (.typeParameter p.name, p.name) :=
    filterMap_typeParameterPieces (f := Piece.name?) (fun _ => rfl) (fun _ => rfl) ps
  simp [callPieces, hused, eq_comm, -List.mem_flatMap]

theorem mem_names_bodyPieces {f : Forwarding} {call accessor : List Piece} :
    n ∈ names (bodyPieces f call accessor).flatten
      ↔ (f.isStatic = false ∧ n = (.guard, guardName)) ∨ n ∈ names call ∨ n ∈ names accessor := by
  unfold bodyPieces
  cases f.isStatic <;> simp [guardPieces]

end

/-! ## Names of properties -/

/-- How the names in the text of a property are spelled. -/
inductive PropertySpelling (p : PropertyDescriptor) : Entity → String → Prop where
  | member : PropertySpelling p .member (Identifier.escaped p.name)
  | getter : PropertySpelling p .accessor ("Get" ++ p.name)
  | setter (h : p.modifiers.isReadOnly = false) : PropertySpelling p .accessor ("Set" ++ p.name)
  | receiver : PropertySpelling p .receiver "target"
  | value (h : p.modifiers.isReadOnly = false) : PropertySpelling p (.parameter "value") "value"
  | field (h : p.modifiers.isStatic = false) : PropertySpelling p .field "_target"
  | guard (h : p.modifiers.isStatic = false) :
    PropertySpelling p .guard "ThrowInvalidOperationIfNotInitialized"

section

variable {targetType : String} {p : PropertyDescriptor} {e : Entity} {s : String}

theorem mem_names_propertyReceiverPieces {n : Entity × String} :
    n ∈ names (propertyReceiverPieces p)
      ↔ p.modifiers.isStatic = false ∧ n = (.field, backingField) := by
  unfold propertyReceiverPieces
  cases p.modifiers.isStatic <;> simp

theorem mem_names_getterPieces :
    (e, s) ∈ names (getterPieces targetType p).flatten
      ↔ p.modifiers.isStatic = false ∧ e = .guard ∧ s = guardName
        ∨ e = .accessor ∧ s = "Get" ++ p.name
        ∨ p.modifiers.isStatic = false ∧ e = .field ∧ s = backingField
        ∨ e = .receiver ∧ s = "target" := by
  rw [getterPieces, mem_names_bodyPieces, mem_names_callPieces, mem_names_signaturePieces]
  simp [mem_names_propertyReceiverPieces, getter]
  grind

theorem mem_names_setterPieces :
    (e, s) ∈ names (setterPieces targetType p).flatten
      ↔ p.modifiers.isStatic = false ∧ e = .guard ∧ s = guardName
        ∨ e = .accessor ∧ s = "Set" ++ p.name
        ∨ p.modifiers.isStatic = false ∧ e = .field ∧ s = backingField
        ∨ e = .receiver ∧ s = "target"
        ∨ e = .parameter "value" ∧ s = "value" := by
  rw [setterPieces, mem_names_bodyPieces, mem_names_callPieces, mem_names_signaturePieces]
  simp [mem_names_propertyReceiverPieces, setter]
  grind

/-- **The spellings of a property** are those of the names in its text. -/
theorem mem_names_propertyPieces :
    (e, s) ∈ names (propertyPieces targetType p) ↔ PropertySpelling p e s := by
  have hparts : (e, s) ∈ names (propertyPieces targetType p)
      ↔ e = .member ∧ s = Identifier.escaped p.name
        ∨ (e, s) ∈ names (getterPieces targetType p).flatten
        ∨ p.modifiers.isReadOnly = false ∧ (e, s) ∈ names (setterPieces targetType p).flatten := by
    unfold propertyPieces
    cases p.modifiers.isReadOnly <;> simp [propertyHeader]
  rw [hparts, mem_names_getterPieces, mem_names_setterPieces]
  constructor
  · rintro (⟨rfl, rfl⟩ | (⟨h, rfl, rfl⟩ | ⟨rfl, rfl⟩ | ⟨h, rfl, rfl⟩ | ⟨rfl, rfl⟩)
      | ⟨hset, ⟨h, rfl, rfl⟩ | ⟨rfl, rfl⟩ | ⟨h, rfl, rfl⟩ | ⟨rfl, rfl⟩ | ⟨rfl, rfl⟩⟩)
    · exact .member
    · exact .guard h
    · exact .getter
    · exact .field h
    · exact .receiver
    · exact .guard h
    · exact .setter hset
    · exact .field h
    · exact .receiver
    · exact .value hset
  · intro h
    cases h <;> simp [*, backingField, guardName]

end

/-- No name in the text of a property is a bare keyword. -/
theorem PropertySpelling.not_mem_keywords {p : PropertyDescriptor} {e : Entity} {s : String}
    (h : PropertySpelling p e s) : s ∉ Identifier.keywords := by
  cases h with
  | member => exact Identifier.escaped_not_mem_keywords p.name
  | getter => exact Identifier.not_mem_keywords_of_mem (c := 'G') (by simp) rfl
  | setter => exact Identifier.not_mem_keywords_of_mem (c := 'S') (by simp) rfl
  | receiver => decide +kernel
  | value => decide +kernel
  | field => decide +kernel
  | guard => decide +kernel

/-! ## Names of methods -/

/-- How the names in the text of a method are spelled. -/
inductive MethodSpelling (m : MethodDescriptor) : Entity → String → Prop where
  | member : MethodSpelling m .member (Identifier.escaped m.name)
  | accessor : MethodSpelling m .accessor ("Call" ++ m.name)
  | receiver : MethodSpelling m .receiver (receiverName m.parameters)
  | parameter (p : ParameterDescriptor) (h : p ∈ m.parameters) :
    MethodSpelling m (.parameter p.name) (Identifier.escaped p.name)
  | typeParameter (p : TypeParameterDescriptor) (h : p ∈ m.typeParameters) :
    MethodSpelling m (.typeParameter p.name) p.name
  | field (h : m.modifiers.isStatic = false) : MethodSpelling m .field "_target"
  | guard (h : m.modifiers.isStatic = false) :
    MethodSpelling m .guard "ThrowInvalidOperationIfNotInitialized"

section

variable {targetType : String} {m : MethodDescriptor} {e : Entity} {s : String}

theorem mem_names_methodHeader :
    (e, s) ∈ names (methodHeader m)
      ↔ e = .member ∧ s = Identifier.escaped m.name
        ∨ (∃ p ∈ m.typeParameters, e = .typeParameter p.name ∧ s = p.name)
        ∨ ∃ p ∈ m.parameters, e = .parameter p.name ∧ s = Identifier.escaped p.name := by
  rw [methodHeader, mem_names_signaturePieces]
  simp [List.flatMap_map]

theorem mem_names_methodReceiverPieces {n : Entity × String} :
    n ∈ names (methodReceiverPieces m)
      ↔ m.modifiers.isStatic = false ∧ n = (.field, backingField) := by
  unfold methodReceiverPieces
  cases m.modifiers.isStatic with
  | true => simp
  | false =>
    simp only [Bool.false_eq_true, if_false, true_and]
    split <;> simp

theorem mem_names_methodCall :
    (e, s) ∈ names (methodCall m)
      ↔ e = .accessor ∧ s = "Call" ++ m.name
        ∨ (∃ p ∈ m.typeParameters, e = .typeParameter p.name ∧ s = p.name)
        ∨ m.modifiers.isStatic = false ∧ e = .field ∧ s = backingField
        ∨ ∃ p ∈ m.parameters, e = .parameter p.name ∧ s = Identifier.escaped p.name := by
  rw [methodCall, mem_names_callPieces]
  simp [List.flatMap_map, mem_names_methodReceiverPieces]

theorem mem_names_methodAccessorPieces :
    (e, s) ∈ names (methodAccessorPieces targetType m)
      ↔ e = .accessor ∧ s = "Call" ++ m.name
        ∨ (∃ p ∈ m.typeParameters, e = .typeParameter p.name ∧ s = p.name)
        ∨ e = .receiver ∧ s = receiverName m.parameters
        ∨ ∃ p ∈ m.parameters, e = .parameter p.name ∧ s = Identifier.escaped p.name := by
  rw [methodAccessorPieces, mem_names_signaturePieces]
  simp [List.flatMap_map]

/-- **The spellings of a method** are those of the names in its text. -/
theorem mem_names_methodPieces :
    (e, s) ∈ names (methodPieces targetType m) ↔ MethodSpelling m e s := by
  rw [methodPieces, names_append, List.mem_append, methodBody, mem_names_bodyPieces,
    mem_names_methodHeader, mem_names_methodCall, mem_names_methodAccessorPieces]
  constructor
  · rintro ((⟨rfl, rfl⟩ | ⟨p, hp, rfl, rfl⟩ | ⟨p, hp, rfl, rfl⟩) | ⟨h, hguard⟩
      | (⟨rfl, rfl⟩ | ⟨p, hp, rfl, rfl⟩ | ⟨h, rfl, rfl⟩ | ⟨p, hp, rfl, rfl⟩)
      | ⟨rfl, rfl⟩ | ⟨p, hp, rfl, rfl⟩ | ⟨rfl, rfl⟩ | ⟨p, hp, rfl, rfl⟩)
    · exact .member
    · exact .typeParameter p hp
    · exact .parameter p hp
    · cases hguard
      exact .guard h
    · exact .accessor
    · exact .typeParameter p hp
    · exact .field h
    · exact .parameter p hp
    · exact .accessor
    · exact .typeParameter p hp
    · exact .receiver
    · exact .parameter p hp
  · intro h
    cases h with
    | member => exact .inl (.inl ⟨rfl, rfl⟩)
    | accessor => exact .inr (.inr (.inl (.inl ⟨rfl, rfl⟩)))
    | receiver => exact .inr (.inr (.inr (.inr (.inr (.inl ⟨rfl, rfl⟩)))))
    | parameter p hp => exact .inl (.inr (.inr ⟨p, hp, rfl, rfl⟩))
    | typeParameter p hp => exact .inl (.inr (.inl ⟨p, hp, rfl, rfl⟩))
    | field h => exact .inr (.inr (.inl (.inr (.inr (.inl ⟨h, rfl, rfl⟩)))))
    | guard h => exact .inr (.inl ⟨h, rfl⟩)

end

theorem receiverName_not_mem_keywords (ps : List ParameterDescriptor) :
    receiverName ps ∉ Identifier.keywords := by
  obtain ⟨more, hmore⟩ := exists_freshName_eq (ps.map (·.name)) ps.length "target"
  rw [receiverName, hmore]
  cases more with
  | zero => decide +kernel
  | succ more =>
    exact Identifier.not_mem_keywords_of_mem (c := '_') (by simp [List.replicate_succ]) rfl

/-- A bare keyword in the text of a method is the name of a type parameter. -/
theorem MethodSpelling.of_mem_keywords {m : MethodDescriptor} {e : Entity} {s : String}
    (h : MethodSpelling m e s) : s ∈ Identifier.keywords → e = .typeParameter s := by
  cases h with
  | typeParameter p => exact fun _ => rfl
  | member => simp [Identifier.escaped_not_mem_keywords]
  | accessor =>
    have hcapital : "Call" ++ m.name ∉ Identifier.keywords :=
      Identifier.not_mem_keywords_of_mem (c := 'C') (by simp) rfl
    exact fun hkeyword => absurd hkeyword hcapital
  | receiver => simp [receiverName_not_mem_keywords]
  | parameter p => simp [Identifier.escaped_not_mem_keywords]
  | field => decide +kernel
  | guard => decide +kernel

open Identifier in
/-- **Which names are bare keywords.** What is written for a property and for a method is the text of
    their pieces. No name in it is a reserved keyword, but for type parameters of a method: they are
    the names that are keywords, if a keyword is what they are named by. Names that differ are spelled
    differently. -/
theorem keywords_escaped (targetType : String) (p : PropertyDescriptor) (m : MethodDescriptor)
    {a b : String} (ha : isValid a = true) (hb : isValid b = true) :
    propertySteps targetType p = unmarkedPropertySteps targetType p
      ∧ methodSteps targetType m = unmarkedMethodSteps targetType m
      ∧ (∀ n ∈ names (propertyPieces targetType p), n.2 ∉ keywords)
      ∧ (∀ n ∈ names (methodPieces targetType m),
        n.2 ∈ keywords → n.1 = .typeParameter n.2)
      ∧ ((∀ n ∈ names (methodPieces targetType m), n.2 ∉ keywords)
        ↔ ∀ q ∈ m.typeParameters, q.name ∉ keywords)
      ∧ (escaped a = escaped b ↔ a = b) := by
  have hbare : ∀ n ∈ names (methodPieces targetType m),
      n.2 ∈ keywords → n.1 = .typeParameter n.2 :=
    fun n hn => (mem_names_methodPieces.mp hn).of_mem_keywords
  refine ⟨propertySteps_eq targetType p, methodSteps_eq targetType m,
    fun n hn => (mem_names_propertyPieces.mp hn).not_mem_keywords, hbare, ⟨?_, ?_⟩,
    ⟨escaped_inj ha hb, congrArg escaped⟩⟩
  · intro hnone q hq
    exact hnone (.typeParameter q.name, q.name) (mem_names_methodPieces.mpr (.typeParameter q hq))
  · intro hnone n hn hkeyword
    -- The name is that of a type parameter, which is then spelled as it is named.
    obtain ⟨e, s⟩ := n
    have he : e = .typeParameter s := hbare (e, s) hn hkeyword
    subst he
    cases mem_names_methodPieces.mp hn with
    | typeParameter q hq => exact hnone q hq hkeyword

/-- A method that is named by a keyword, as its parameter is, and escapes both. -/
theorem keywords_escaped_lock :
    let lock : MethodDescriptor :=
      { name := "lock", returnType := "void", modifiers := {}
        parameters := [{ name := "in", typeName := "T", passing := .byIn }]
        typeParameters := [{ name := "T", constraints := ["class"] }] }
    let width : PropertyDescriptor := { name := "int", typeName := "int", modifiers := {} }
    Identifier.isValid "lock" = true ∧ Identifier.isValid "in" = true
      ∧ (.member, "@lock") ∈ names (methodPieces "Door" lock)
      ∧ (.parameter "in", "@in") ∈ names (methodPieces "Door" lock)
      ∧ (.member, "@int") ∈ names (propertyPieces "Door" width)
      ∧ (∀ n ∈ names (methodPieces "Door" lock), n.2 ∉ Identifier.keywords)
      ∧ (∀ n ∈ names (propertyPieces "Door" width), n.2 ∉ Identifier.keywords)
      ∧ Identifier.escaped "lock" ≠ Identifier.escaped "in" := by
  intro lock width
  have hlock : Identifier.isValid "lock" = true := by decide +kernel
  have hin : Identifier.isValid "in" = true := by decide +kernel
  obtain ⟨-, -, hproperty, -, hmethod, hspelled⟩ := keywords_escaped "Door" width lock hlock hin
  exact ⟨hlock, hin, by decide +kernel, by decide +kernel, by decide +kernel,
    hmethod.mpr (by decide +kernel), hproperty, mt hspelled.mp (by decide)⟩

/-- A method that can be forwarded to, all of its names identifiers. Its type parameter is named
    `event`, and that is how it is declared, and constrained, in what is written. -/
theorem typeParameter_unescaped :
    let raise : MethodDecl :=
      { name := "Raise"
        parameters := [{ name := "string", type := .named "string" }]
        typeParameters := [{ name := "event", constraints := [.named "Occasion"] }] }
    raise.isEligible = true
      ∧ (∀ p ∈ raise.parameters, Identifier.isValid p.name = true)
      ∧ (∀ p ∈ raise.typeParameters, Identifier.isValid p.name = true)
      ∧ (.typeParameter "event", "event") ∈ names (methodHeader raise.describe)
      ∧ "event" ∈ Identifier.keywords
      ∧ (methodSteps "Desk" raise.describe).head? = some
        (.line "public void Raise<event>(string @string) where event : Occasion") := by
  intro raise
  have htext : "public " ++ modifierKeywords raise.describe.modifiers
      ++ (methodSignature raise.describe).text
      = "public void Raise<event>(string @string) where event : Occasion" := by decide +kernel
  refine ⟨?_, ?_, ?_, ?_, ?_, congrArg (some <| Step.line ·) htext⟩ <;> decide +kernel

end Source

end Companion
