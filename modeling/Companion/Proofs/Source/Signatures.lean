import Mathlib.Data.List.Forall2
import Companion.Proofs.Source.Guards

/-!
# Signatures that agree

A method of a companion is spelled three times: as it is declared, as the local accessor that is
bound to the subject's method, and as the call from the one to the other. What the three have in
common is one set of texts (`Shared`). The declaration and the accessor are the same text made of
them, under two names, and the accessor has one parameter more, which is the receiver
(`Shared.declared`).

**Nothing is asked of the strings, or of how many there are.** A list without items leaves no comma
behind, and behind the receiver each argument has its own.

The declaration alone has further words in front (`frontWords`). That of a stack-only type is one of
them, and it is spelled like a reference. So a descriptor with that flag is declared with one `ref`
more than its accessor has and its call hands back (`stackOnly_declared_by_ref`).
-/

namespace Companion.Source

/-! ## What the declaration has alone -/

/-- The words of a declaration that say nothing of its result, each with its flag. -/
def frontWords (m : Modifiers) : List String :=
  ([(m.isStatic, "static "), (m.isOverride, "override "), (m.isReadOnly, "readonly "),
    (m.isUnsafe, "unsafe "), (m.isRefStruct, "ref "), (m.isPartial, "partial ")].filter
      (·.1)).map (·.2)

/-! ## What the three have in common -/

/-- How a parameter is declared, and how an argument for it is handed on. What comes as a read-only
    reference goes on as an input. -/
inductive Keywords : Passing → String → String → Prop where
  | byValue : Keywords .byValue "" ""
  | byRef : Keywords .byRef "ref " "ref "
  | byOut : Keywords .byOut "out " "out "
  | byIn : Keywords .byIn "in " "in "
  | byRefReadOnly : Keywords .byRefReadOnly "ref readonly " "in "

/-- The first text declares the parameter and the second one hands it on. -/
inductive Passed (p : ParameterDescriptor) : String × String → Prop where
  | mk {declared handed : String} (h : Keywords p.passing declared handed) :
    Passed p (declared ++ p.typeName ++ " " ++ Identifier.escaped p.name,
      handed ++ Identifier.escaped p.name)

/-- The texts that a method's declaration, its accessor and the call between them share. -/
structure Shared where
  /-- What the method returns, and whether it does so by reference. -/
  result : String
  typeParameters : String
  constraints : String
  /-- Each parameter as it is declared, and as it is handed on. -/
  passed : List (String × String)

namespace Shared

/-- A declaration under some name, with some parameters in front. -/
def declared (s : Shared) (name : String) (front : List String) : String :=
  s.result ++ " " ++ name ++ s.typeParameters
    ++ "(" ++ ", ".intercalate (front ++ s.passed.map (·.1)) ++ ")" ++ s.constraints

/-- A call under some name, with one argument in front. -/
def called (s : Shared) (name receiver : String) : String :=
  name ++ s.typeParameters ++ "(" ++ ", ".intercalate (receiver :: s.passed.map (·.2)) ++ ")"

/-- The texts are those of the method. -/
structure Of (s : Shared) (m : MethodDescriptor) : Prop where
  result : s.result = (if m.modifiers.isRef then "ref " else "")
    ++ (if m.modifiers.isRefReadOnly then "ref readonly " else "") ++ m.returnType
  typeParameters : s.typeParameters =
    if m.typeParameters = [] then ""
    else "<" ++ ", ".intercalate (m.typeParameters.map (·.name)) ++ ">"
  constraints : s.constraints =
    String.join ((m.typeParameters.filter (·.constraints ≠ [])).map fun p =>
      " where " ++ p.name ++ " : " ++ ", ".intercalate p.constraints)
  passed : List.Forall₂ Passed m.parameters s.passed

end Shared

/-- What the method's body does with the result of its call. -/
inductive HandsBack (m : MethodDescriptor) : String → Prop where
  | reference (h : m.modifiers.returnsByRef = true) : HandsBack m "return ref "
  | value (h : m.modifiers.returnsByRef = false) (hvoid : m.returnType ≠ "void") :
    HandsBack m "return "
  | nothing (h : m.modifiers.returnsByRef = false) (hvoid : m.returnType = "void") :
    HandsBack m ""

/-! ## The texts of a method -/

/-- The words are written in front as they are listed. -/
theorem modifierKeywords_eq (m : Modifiers) : modifierKeywords m = String.join (frontWords m) := by
  have hjoin : ∀ (b : Bool) (word : String) (rest : List (Bool × String)),
      String.join ((((b, word) :: rest).filter (·.1)).map (·.2))
        = (if b then word else "") ++ String.join ((rest.filter (·.1)).map (·.2)) := by
    intro b word rest
    cases b <;> simp [String.join_cons]
  simp only [modifierKeywords, frontWords, hjoin, String.append_assoc]
  simp

/-- The one word in front that is spelled like a reference is that of a stack-only type. -/
theorem ref_mem_frontWords (m : Modifiers) : "ref " ∈ frontWords m ↔ m.isRefStruct = true := by
  simp [frontWords]

theorem keywords_passing (p : Passing) : Keywords p (parameterKeyword p) (argumentKeyword p) := by
  cases p <;> constructor

theorem passed_parameter (p : ParameterDescriptor) :
    Passed p (declareParameter p, passArgument p) :=
  .mk (keywords_passing p.passing)

/-- A type parameter without constraints leaves nothing among the clauses. -/
theorem constraintClauses_eq (ps : List TypeParameterDescriptor) :
    constraintClauses ps = String.join ((ps.filter (·.constraints ≠ [])).map fun p =>
      " where " ++ p.name ++ " : " ++ ", ".intercalate p.constraints) := by
  unfold constraintClauses
  induction ps with
  | nil => rfl
  | cons p rest ih =>
    rw [List.map_cons, String.join_cons, ih]
    by_cases h : p.constraints = []
    · simp [constraintClause, h]
    · simp [constraintClause, h]

theorem handsBack_methodHand (m : MethodDescriptor) : HandsBack m (methodHand m).keyword := by
  unfold methodHand
  cases href : m.modifiers.returnsByRef with
  | true => exact .reference href
  | false =>
    by_cases hvoid : m.returnType = "void"
    · simpa [MethodDescriptor.returnsVoid, hvoid, Hand.keyword] using HandsBack.nothing href hvoid
    · simpa [MethodDescriptor.returnsVoid, hvoid, Hand.keyword] using HandsBack.value href hvoid

/-- The texts of a method, as they are written. -/
def sharedTexts (m : MethodDescriptor) : Shared where
  result := refKeywords m.modifiers ++ m.returnType
  typeParameters := typeParameterList m.typeParameters
  constraints := constraintClauses m.typeParameters
  passed := m.parameters.map fun p => (declareParameter p, passArgument p)

theorem sharedTexts_of (m : MethodDescriptor) : (sharedTexts m).Of m where
  result := rfl
  typeParameters := by
    cases h : m.typeParameters <;> simp [sharedTexts, typeParameterList, h]
  constraints := constraintClauses_eq m.typeParameters
  passed := by
    rw [sharedTexts, List.forall₂_map_right_iff]
    exact List.forall₂_same.mpr fun p _ => passed_parameter p

theorem text_methodSignature (m : MethodDescriptor) :
    (methodSignature m).text = (sharedTexts m).declared (Identifier.escaped m.name) [] := by
  simp [Signature.text_eq, methodSignature, Shared.declared, sharedTexts, String.append_assoc,
    Function.comp_def]

theorem text_methodAccessor (targetType : String) (m : MethodDescriptor) :
    (methodAccessor targetType m).text
      = (sharedTexts m).declared ("Call" ++ m.name)
        [targetType ++ " " ++ receiverName m.parameters] := by
  simp [Signature.text_eq, methodAccessor, methodSignature, Shared.declared, sharedTexts,
    String.append_assoc, Function.comp_def]

theorem call_methodForwarding (targetType : String) (m : MethodDescriptor) :
    (methodForwarding targetType m).call
      = (methodHand m).keyword
        ++ (sharedTexts m).called ("Call" ++ m.name)
          (subjectArgument m.modifiers.isStatic (m.parameters.map (·.name))) ++ ";" := by
  simp [Forwarding.call_eq, methodForwarding, methodAccessor, methodSignature, methodReceiver_eq,
    Shared.called, sharedTexts, String.append_assoc, Function.comp_def]

namespace Writer

/-- A method is written from wherever a writer stands: its declaration on the line that has been
    begun, and its body on lines of their own. -/
theorem run?_methodSteps (w : Writer) (targetType : String) (m : MethodDescriptor) :
    w.run? (methodSteps targetType m)
      = some ((w.line ("public " ++ modifierKeywords m.modifiers ++ (methodSignature m).text)).put
        (bodyAt w.level (methodForwarding targetType m).lines)) := by
  rw [methodSteps, run?, step?]
  show (w.line _).run? [(methodForwarding targetType m).block] = _
  rw [run?_eq_put (fun s hs => step?_eq_put ?_) rfl, level_line]
  · simp [linesOfAll, Forwarding.linesOf_block]
  · obtain rfl := List.mem_singleton.mp hs
    exact Forwarding.linewise_block _

end Writer

/-- **The three spellings of a method agree**, for every writer, with as many parameters and type
    parameters as there may be. One set of texts makes up its declaration, the accessor, whose first
    parameter is the receiver, and the call, whose first argument is the subject. In front of the
    declaration stand the words of its other modifiers, one of which is spelled like a reference: that
    of a stack-only type. -/
theorem signatures_agree (w : Writer) (targetType : String) (m : MethodDescriptor) :
    ∃ (s : Shared) (hand : String), s.Of m ∧ HandsBack m hand
      ∧ w.run? (methodSteps targetType m) = some
        ((w.line ("public " ++ String.join (frontWords m.modifiers)
            ++ s.declared (Identifier.escaped m.name) [])).put
          (bodyAt w.level
            ((if m.modifiers.isStatic then [] else [guardCall])
              ++ [hand ++ s.called ("Call" ++ m.name)
                    (subjectArgument m.modifiers.isStatic (m.parameters.map (·.name))) ++ ";",
                  "",
                  binding m.modifiers.isStatic m.name,
                  "extern static " ++ s.declared ("Call" ++ m.name)
                    [targetType ++ " " ++ receiverName m.parameters] ++ ";"])))
      ∧ ("ref " ∈ frontWords m.modifiers ↔ m.modifiers.isRefStruct = true) := by
  refine ⟨sharedTexts m, (methodHand m).keyword, sharedTexts_of m, handsBack_methodHand m, ?_,
    ref_mem_frontWords m.modifiers⟩
  rw [Writer.run?_methodSteps, text_methodSignature, Forwarding.lines, Forwarding.guards_eq,
    Forwarding.bindingAttribute_eq, call_methodForwarding, ← modifierKeywords_eq]
  rw [← text_methodAccessor]
  rfl

/-- A method with the flag of a stack-only type. Its declaration returns by reference, and the
    accessor that is bound to the same member by value: the two have no result in common. -/
theorem stackOnly_declared_by_ref :
    let peek : MethodDescriptor :=
      { name := "Peek", returnType := "int", modifiers := { isRefStruct := true }
        parameters := [], typeParameters := [] }
    let declared := "public ref int Peek()"
    let accessor := "extern static int CallPeek(Deck target);"
    ((({} : Writer).run? (methodSteps "Deck" peek)).map Writer.text
        = some (declared ++ "\n\x7b\n    ThrowInvalidOperationIfNotInitialized();\n"
          ++ "    return CallPeek(_target);\n\n    [global::System.Runtime.CompilerServices."
          ++ "UnsafeAccessor(global::System.Runtime.CompilerServices.UnsafeAccessorKind.Method, "
          ++ "Name = \"Peek\")]\n    " ++ accessor ++ "\n\x7d\n"))
      ∧ ¬ ∃ result, declared = "public " ++ result ++ " Peek()"
        ∧ accessor = "extern static " ++ result ++ " CallPeek(Deck target);" := by
  intro peek declared accessor
  refine ⟨by decide +kernel, ?_⟩
  rintro ⟨result, hdeclared, haccessor⟩
  have hfront : accessor = "extern static " ++ "int" ++ " CallPeek(Deck target);" := by
    decide +kernel
  have hresult : result = "int" := by
    rw [hfront, String.append_left_inj, String.append_right_inj] at haccessor
    exact haccessor.symm
  rw [hresult] at hdeclared
  exact absurd hdeclared (by decide +kernel)

end Companion.Source
