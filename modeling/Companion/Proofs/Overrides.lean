import Mathlib.Data.List.DropRight
import Companion.Model.Extract

/-!
# Which methods override

Every type inherits `ToString`, `Equals` and `GetHashCode`, and a companion's method that repeats
the signature of one of them is marked as an override. This file says what is marked in terms of the
declaration alone: by its name, its parameters and the spellings of types. A built-in type has three
spellings, and in some places marks that it may be null can follow.

**How the result comes is not looked at.** Inherited methods return by value, so a declaration that
repeats all the rest of one and returns by reference has another signature. It is marked all the
same, as an override that overrides nothing (`override_by_reference`).
-/

namespace Companion

/-! ## Spellings of built-in types -/

/-- A built-in type, by its keyword and by its name in the system's namespace. -/
structure BuiltIn where
  keyword : String
  systemName : String

namespace BuiltIn

def string : BuiltIn := ⟨"string", "String"⟩

def object : BuiltIn := ⟨"object", "Object"⟩

def bool : BuiltIn := ⟨"bool", "Boolean"⟩

def int : BuiltIn := ⟨"int", "Int32"⟩

def spellings (b : BuiltIn) : List String :=
  [b.keyword, "System." ++ b.systemName, "global::System." ++ b.systemName]

/-- A spelling of the type, with any number of marks that it may be null. -/
def MarkedSpelling (b : BuiltIn) (text : String) : Prop :=
  ∃ type ∈ b.spellings, ∃ marks, text = type ++ String.ofList (List.replicate marks '?')

theorem isSpelling_iff (b : BuiltIn) (text : String) :
    isSpelling b.keyword b.systemName text = true ↔ text ∈ b.spellings := by
  have hsystem : ¬ "global::".toList <+: ("System." ++ b.systemName).toList := by
    rintro ⟨tail, htail⟩
    have hfirst := congrArg List.head? htail
    rw [String.toList_append] at hfirst
    exact absurd hfirst (by simp)
  have hdrop : dropLeading "global::" text = "System." ++ b.systemName
      ↔ text = "System." ++ b.systemName ∨ text = "global::System." ++ b.systemName := by
    have hglobal : "global::" ++ ("System." ++ b.systemName)
        = "global::System." ++ b.systemName := by
      rw [← String.append_assoc]
      rfl
    rw [dropLeading_eq_iff, hglobal, or_comm]
    constructor
    · rintro (⟨-, h⟩ | h)
      · exact .inl h
      · exact .inr h
    · rintro (rfl | h)
      · exact .inl ⟨hsystem, rfl⟩
      · exact .inr h
  simp only [isSpelling, Bool.or_eq_true, beq_iff_eq, hdrop, spellings, List.mem_cons,
    List.not_mem_nil, or_false]

end BuiltIn

theorem withoutNullMarks_append (text : String) (marks : Nat) :
    withoutNullMarks (text ++ String.ofList (List.replicate marks '?'))
      = withoutNullMarks text := by
  unfold withoutNullMarks
  rw [String.toList_append, String.toList_ofList, List.reverse_append,
    List.dropWhile_append_of_pos (by simp)]

theorem exists_nullMarks (text : String) :
    ∃ marks, text = withoutNullMarks text ++ String.ofList (List.replicate marks '?') := by
  let tail := text.toList.rtakeWhile (· == '?')
  have htail : tail = List.replicate tail.length '?' := by
    rw [List.eq_replicate_iff]
    exact ⟨rfl, fun c hc => by simpa using List.mem_rtakeWhile_imp hc⟩
  refine ⟨tail.length, ?_⟩
  rw [← String.toList_inj, String.toList_append, withoutNullMarks, String.toList_ofList,
    String.toList_ofList, ← htail]
  exact List.rdropWhile_append_rtakeWhile.symm

theorem BuiltIn.isSpelling_withoutNullMarks_iff {b : BuiltIn}
    (h : ∀ type ∈ b.spellings, withoutNullMarks type = type) (text : String) :
    isSpelling b.keyword b.systemName (withoutNullMarks text) = true ↔ b.MarkedSpelling text := by
  rw [isSpelling_iff]
  constructor
  · intro htype
    exact ⟨_, htype, exists_nullMarks text⟩
  · rintro ⟨type, htype, marks, rfl⟩
    rw [withoutNullMarks_append, h type htype]
    exact htype

/-! ## What repeats an inherited method -/

namespace MethodDecl

/-- The name, the parameters and the types are those of a method that every type inherits. -/
inductive RepeatsInherited (m : MethodDecl) : Prop where
  | toString (name : m.name = "ToString") (parameters : m.parameters = [])
      (result : BuiltIn.string.MarkedSpelling m.returnType.display)
  | equals {p : ParameterDecl} (name : m.name = "Equals") (parameters : m.parameters = [p])
      (passing : p.passing = .byValue) (type : BuiltIn.object.MarkedSpelling p.type.display)
      (result : m.returnType.display ∈ BuiltIn.bool.spellings)
  | getHashCode (name : m.name = "GetHashCode") (parameters : m.parameters = [])
      (result : m.returnType.display ∈ BuiltIn.int.spellings)

/-- The method has the signature of an inherited one. -/
structure OverridesInherited (m : MethodDecl) : Prop where
  notStatic : m.isStatic = false
  notGeneric : m.typeParameters = []
  byValue : m.returnsBy = .byValue
  repeats : m.RepeatsInherited

theorem takesObject_iff (ps : List ParameterDecl) :
    takesObject (ps.map ParameterDecl.describe) = true
      ↔ ∃ p, ps = [p] ∧ p.passing = .byValue ∧ BuiltIn.object.MarkedSpelling p.type.display := by
  have hobject := BuiltIn.isSpelling_withoutNullMarks_iff (b := .object) (by decide +kernel)
  match ps with
  | [] => simp [takesObject]
  | [p] =>
    have hone : takesObject ([p].map ParameterDecl.describe)
        = (p.passing == .byValue && isSpelling BuiltIn.object.keyword BuiltIn.object.systemName
            (withoutNullMarks p.type.display)) := rfl
    rw [hone, Bool.and_eq_true, beq_iff_eq, hobject]
    simp
  | p :: q :: rest => simp [takesObject]

theorem isInherited_signature_iff (m : MethodDecl) :
    m.signature.isInherited = true
      ↔ m.isStatic = false ∧ m.typeParameters = [] ∧ m.RepeatsInherited := by
  have hstring := BuiltIn.isSpelling_withoutNullMarks_iff (b := .string) (by decide +kernel)
    m.returnType.display
  have hbool := BuiltIn.bool.isSpelling_iff m.returnType.display
  have hint := BuiltIn.int.isSpelling_iff m.returnType.display
  simp only [BuiltIn.string, BuiltIn.bool, BuiltIn.int] at hstring hbool hint
  simp only [MethodDescriptor.isInherited, signature, Bool.and_eq_true, Bool.or_eq_true,
    Bool.not_eq_true', beq_iff_eq, hstring, hbool, hint, takesObject_iff, List.isEmpty_iff,
    List.map_eq_nil_iff]
  constructor
  · rintro ⟨⟨hstatic, hgeneric⟩, hrest⟩
    refine ⟨hstatic, hgeneric, ?_⟩
    rcases hrest with (⟨⟨hname, hresult⟩, hparameters⟩ | ⟨⟨hname, hresult⟩, hobject⟩)
      | ⟨⟨hname, hresult⟩, hparameters⟩
    · exact .toString hname hparameters hresult
    · obtain ⟨p, hparameters, hpassing, htype⟩ := hobject
      exact .equals hname hparameters hpassing htype hresult
    · exact .getHashCode hname hparameters hresult
  · rintro ⟨hstatic, hgeneric, hrepeats⟩
    refine ⟨⟨hstatic, hgeneric⟩, ?_⟩
    cases hrepeats with
    | toString hname hparameters hresult => exact .inl (.inl ⟨⟨hname, hresult⟩, hparameters⟩)
    | equals hname hparameters hpassing htype hresult =>
      exact .inl (.inr ⟨⟨hname, hresult⟩, _, hparameters, hpassing, htype⟩)
    | getHashCode hname hparameters hresult => exact .inr ⟨⟨hname, hresult⟩, hparameters⟩

/-- **What is marked as an override.** A method is marked exactly if it is neither static nor
    generic and its name, parameters and types repeat an inherited method. The marked ones that
    return by value are the methods with an inherited signature. No marked method is static, but one
    that returns by reference is described as such whether it is marked or not. -/
theorem isOverride_iff (m : MethodDecl) :
    (m.describe.modifiers.isOverride = true
        ↔ m.isStatic = false ∧ m.typeParameters = [] ∧ m.RepeatsInherited)
      ∧ (m.describe.modifiers.isOverride = true ∧ m.returnsBy = .byValue ↔ m.OverridesInherited)
      ∧ ¬ (m.describe.modifiers.isOverride = true ∧ m.describe.modifiers.isStatic = true)
      ∧ (m.describe.modifiers.returnsByRef = true ↔ m.returnsBy ≠ .byValue) := by
  have hmarked : m.describe.modifiers.isOverride = true
      ↔ m.isStatic = false ∧ m.typeParameters = [] ∧ m.RepeatsInherited :=
    m.isInherited_signature_iff
  have hstatic : m.describe.modifiers.isStatic = m.isStatic := rfl
  refine ⟨hmarked, ⟨?_, ?_⟩, ?_, m.returnsByRef_describe⟩
  · rintro ⟨hoverride, hvalue⟩
    obtain ⟨hstatic, hgeneric, hrepeats⟩ := hmarked.mp hoverride
    exact ⟨hstatic, hgeneric, hvalue, hrepeats⟩
  · rintro ⟨hstatic, hgeneric, hvalue, hrepeats⟩
    exact ⟨hmarked.mpr ⟨hstatic, hgeneric, hrepeats⟩, hvalue⟩
  · rintro ⟨hoverride, hmember⟩
    obtain ⟨hinstance, -⟩ := hmarked.mp hoverride
    rw [hstatic, hinstance] at hmember
    exact absurd hmember (by simp)

/-- A hash code that is handed out by reference. -/
def sharedHashCode : MethodDecl where
  name := "GetHashCode"
  returnType := .named "int"
  returnsBy := .byRef

/-- A method that returns by reference has no inherited signature, but it is marked like one. -/
theorem override_by_reference :
    sharedHashCode.isEligible = true ∧ ¬ sharedHashCode.OverridesInherited
      ∧ sharedHashCode.describe.modifiers.isOverride = true
      ∧ sharedHashCode.describe.modifiers.isRef = true := by
  refine ⟨by decide +kernel, ?_, by decide +kernel, by decide +kernel⟩
  intro h
  exact absurd h.byValue (by decide)

end MethodDecl

end Companion
