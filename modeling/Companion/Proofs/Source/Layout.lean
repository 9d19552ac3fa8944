import Companion.Proofs.Source.Lines
import Companion.Source.Proxy

/-!
# The layout of a companion

Every line of a companion begins with a text of the language's, never with one of the subject's.
So whatever the subject's names and types are, no line of them can look like a brace or seem to be
indented, as long as none of them breaks a line. That makes every companion whole lines (`Whole`),
and whole lines are laid out.
-/

namespace Companion

/-! ## What is written down -/

/-- The text stays on one line. -/
def Unbroken (text : String) : Prop :=
  '\n' ∉ text.toList

instance (text : String) : Decidable (Unbroken text) :=
  inferInstanceAs (Decidable (¬ _))

def PropertyDescriptor.strings (p : PropertyDescriptor) : List String :=
  [p.name, p.typeName]

def ParameterDescriptor.strings (p : ParameterDescriptor) : List String :=
  [p.name, p.typeName]

def TypeParameterDescriptor.strings (p : TypeParameterDescriptor) : List String :=
  p.name :: p.constraints

def MethodDescriptor.strings (m : MethodDescriptor) : List String :=
  [m.name, m.returnType] ++ m.parameters.flatMap (·.strings) ++ m.typeParameters.flatMap (·.strings)

namespace Source

open Line

/-- The texts that a companion is written from. -/
def Proxy.strings (p : Proxy) : List String :=
  [p.name, p.targetType, p.subjectDisplay] ++ p.namespaceName.toList ++ p.genericParameters
    ++ p.properties.flatMap (·.strings) ++ p.methods.flatMap (·.strings)

/-! ## Texts on one line -/

/-- Texts of the language's are given by their characters, which are all looked through. -/
theorem unbroken_literal {cs : List Char} (h : '\n' ∉ cs) : Unbroken (String.ofList cs) := by
  simpa [Unbroken] using h

@[simp] theorem unbroken_append {a b : String} : Unbroken (a ++ b) ↔ Unbroken a ∧ Unbroken b := by
  simp [Unbroken]

theorem unbroken_ite {c : Prop} [Decidable c] {a b : String} (ha : Unbroken a) (hb : Unbroken b) :
    Unbroken (if c then a else b) := by
  split
  · exact ha
  · exact hb

theorem unbroken_intercalate {items : List String} (h : ∀ s ∈ items, Unbroken s) :
    Unbroken (", ".intercalate items) := by
  induction items with
  | nil => decide
  | cons s rest ih =>
    have hs := h s List.mem_cons_self
    have hrest := ih fun s hs => h s (List.mem_cons_of_mem _ hs)
    by_cases hne : rest = []
    · simpa [hne] using hs
    · rw [String.intercalate_cons_of_ne_nil hne]
      simp +decide [hs, hrest]

theorem unbroken_join {items : List String} (h : ∀ s ∈ items, Unbroken s) :
    Unbroken (String.join items) := by
  unfold Unbroken
  rw [String.toList_join, List.mem_flatMap]
  rintro ⟨s, hs, hbreak⟩
  exact h s hs hbreak

theorem unbroken_escaped {name : String} (h : Unbroken name) :
    Unbroken (Identifier.escaped name) := by
  unfold Identifier.escaped
  exact unbroken_ite (by simp +decide [h]) h

/-- A line that begins with a text of the language's. -/
theorem whole_line {lead : List Char} (hlead : IsCode lead ∧ '\n' ∉ lead) {rest : String}
    (hrest : Unbroken rest) : Whole (.line (String.ofList lead ++ rest)) := by
  refine .line (unbroken_append.mpr ⟨unbroken_literal hlead.2, hrest⟩) (.inr ?_)
  rw [String.toList_append, String.toList_ofList]
  exact hlead.1.append _

/-- A line that is a text of the language's. -/
theorem whole_literal {text : List Char} (htext : IsCode text ∧ '\n' ∉ text) :
    Whole (.line (String.ofList text)) := by
  refine .line (unbroken_literal htext.2) (.inr ?_)
  rw [String.toList_ofList]
  exact htext.1

/-! ## Signatures -/

theorem unbroken_typeParameterList {ps : List TypeParameterDescriptor}
    (h : ∀ p ∈ ps, ∀ s ∈ p.strings, Unbroken s) : Unbroken (typeParameterList ps) := by
  have hnames : ∀ s ∈ ps.map (·.name), Unbroken s := by
    intro s hs
    obtain ⟨p, hp, rfl⟩ := List.mem_map.mp hs
    exact h p hp p.name List.mem_cons_self
  refine unbroken_ite (by decide) ?_
  simp +decide [unbroken_intercalate hnames]

theorem unbroken_constraintClauses {ps : List TypeParameterDescriptor}
    (h : ∀ p ∈ ps, ∀ s ∈ p.strings, Unbroken s) : Unbroken (constraintClauses ps) := by
  refine unbroken_join fun s hs => ?_
  obtain ⟨p, hp, rfl⟩ := List.mem_map.mp hs
  have hname : Unbroken p.name := h p hp p.name List.mem_cons_self
  have hconstraints : ∀ c ∈ p.constraints, Unbroken c := fun c hc =>
    h p hp c (List.mem_cons_of_mem _ hc)
  refine unbroken_ite (by decide) ?_
  simp +decide [hname, unbroken_intercalate hconstraints]

/-- No text of the signature breaks a line. -/
structure Signature.OneLine (s : Signature) : Prop where
  refKeyword : Unbroken s.refKeyword
  returnType : Unbroken s.returnType
  name : Unbroken s.name
  typeParameters : ∀ p ∈ s.typeParameters, ∀ t ∈ p.strings, Unbroken t
  parameters : ∀ p ∈ s.receiver.toList ++ s.parameters, Unbroken p

theorem Signature.OneLine.text {s : Signature} (h : s.OneLine) : Unbroken s.text := by
  simp +decide [Signature.text_eq, h.refKeyword, h.returnType, h.name,
    unbroken_typeParameterList h.typeParameters, unbroken_intercalate h.parameters,
    unbroken_constraintClauses h.typeParameters]

/-! ## Forwarding -/

/-- No text of the forwarding breaks a line, and the accessor has a name that begins like code. -/
structure Forwarding.OneLine (f : Forwarding) : Prop where
  member : Unbroken f.member
  receiver : Unbroken f.receiver
  arguments : ∀ a ∈ f.arguments, Unbroken a
  accessor : f.accessor.OneLine
  code : IsCode f.accessor.name.toList

theorem Forwarding.OneLine.whole_call {f : Forwarding} (h : f.OneLine) : Whole (.line f.call) := by
  have hkeyword : Unbroken f.hand.keyword := by
    cases f.hand <;> decide
  have harguments : ∀ a ∈ f.receiver :: f.arguments, Unbroken a := by
    intro a ha
    rcases List.mem_cons.mp ha with rfl | ha
    · exact h.receiver
    · exact h.arguments a ha
  -- Where nothing becomes of the result, the line begins with the accessor's name.
  have hcode : IsCode (f.hand.keyword ++ f.accessor.name).toList := by
    rw [String.toList_append]
    cases f.hand with
    | nothing => exact h.code
    | value => exact IsCode.append (by decide) _
    | reference => exact IsCode.append (by decide) _
  rw [Forwarding.call_eq]
  refine .line ?_ (.inr ?_)
  · show Unbroken _
    simp +decide [hkeyword, h.accessor.name, unbroken_typeParameterList h.accessor.typeParameters,
      unbroken_intercalate harguments]
  · rw [String.append_assoc, String.append_assoc, String.append_assoc, String.toList_append]
    exact hcode.append _

theorem Forwarding.OneLine.whole_binding {f : Forwarding} (h : f.OneLine) :
    Whole (.line f.bindingAttribute) := by
  have hkind : Unbroken (bindingKind f.isStatic) := by
    unfold bindingKind
    rw [unbroken_append]
    exact ⟨unbroken_literal (by decide), unbroken_ite (by decide) (by decide)⟩
  unfold Forwarding.bindingAttribute
  simp only [String.append_assoc]
  refine whole_line (by decide) ?_
  simp +decide [hkind, h.member]

/-- The body of an accessor is whole lines. -/
theorem Forwarding.OneLine.whole_block {f : Forwarding} (h : f.OneLine) : Whole f.block := by
  refine .block fun s hs => ?_
  obtain ⟨text, htext, rfl⟩ := List.mem_map.mp hs
  rcases List.mem_append.mp htext with hguard | hrest
  · unfold Forwarding.guards at hguard
    split at hguard
    · exact absurd hguard (by simp)
    · obtain rfl := List.mem_singleton.mp hguard
      unfold guardName
      exact whole_line (by decide) (by decide)
  · simp only [List.mem_cons, List.not_mem_nil, or_false] at hrest
    rcases hrest with rfl | rfl | rfl | rfl
    · exact h.whole_call
    · exact .line (by decide) (.inl rfl)
    · exact h.whole_binding
    · rw [String.append_assoc]
      refine whole_line (by decide) ?_
      simp +decide [h.accessor.text]

/-! ## Members -/

@[simp] theorem unbroken_modifierKeywords (m : Modifiers) : Unbroken (modifierKeywords m) := by
  simp only [modifierKeywords, unbroken_append]
  refine ⟨⟨⟨⟨⟨?_, ?_⟩, ?_⟩, ?_⟩, ?_⟩, ?_⟩ <;> exact unbroken_ite (by decide) (by decide)

@[simp] theorem unbroken_refKeywords (m : Modifiers) : Unbroken (refKeywords m) := by
  simp only [refKeywords, unbroken_append]
  constructor <;> exact unbroken_ite (by decide) (by decide)

theorem whole_declaration (m : Modifiers) {type name more : String} (htype : Unbroken type)
    (hname : Unbroken name) (hmore : Unbroken more) :
    Whole (.line (declaration m type name ++ more)) := by
  unfold declaration
  simp only [String.append_assoc]
  refine whole_line (by decide) ?_
  simp +decide [htype, hname, hmore]

/-- The accessor's name has a text of the language's in front of the member's. -/
theorem isCode_accessorName {lead : List Char} (h : IsCode lead) (name : String) :
    IsCode (String.ofList lead ++ name).toList := by
  rw [String.toList_append, String.toList_ofList]
  exact h.append _

section

variable {targetType : String} (htarget : Unbroken targetType)

include htarget

theorem getter_oneLine {p : PropertyDescriptor} (hname : Unbroken p.name)
    (htype : Unbroken p.typeName) : (getter targetType p).OneLine where
  member := by simp +decide [getter, hname]
  receiver := unbroken_ite (by decide) (by decide)
  arguments := by simp [getter]
  accessor :=
    { refKeyword := by simp +decide [getter]
      returnType := htype
      name := by simp +decide [getter, hname]
      typeParameters := by simp [getter]
      parameters := by simp +decide [getter, htarget] }
  code := isCode_accessorName (by decide) p.name

theorem setter_oneLine {p : PropertyDescriptor} (hname : Unbroken p.name)
    (htype : Unbroken p.typeName) : (setter targetType p).OneLine where
  member := by simp +decide [setter, hname]
  receiver := unbroken_ite (by decide) (by decide)
  arguments := by simp +decide [setter]
  accessor :=
    { refKeyword := by simp +decide [setter]
      returnType := by simp +decide [setter]
      name := by simp +decide [setter, hname]
      typeParameters := by simp [setter]
      parameters := by simp +decide [setter, htarget, htype] }
  code := isCode_accessorName (by decide) p.name

theorem whole_propertySteps {p : PropertyDescriptor} (h : ∀ s ∈ p.strings, Unbroken s) :
    ∀ s ∈ propertySteps targetType p, Whole s := by
  have hname : Unbroken p.name := h _ (by simp [PropertyDescriptor.strings])
  have htype : Unbroken p.typeName := h _ (by simp [PropertyDescriptor.strings])
  have hsetter : ∀ s ∈ setterSteps targetType p, Whole s := by
    intro s hs
    unfold setterSteps at hs
    split at hs
    · exact absurd hs (by simp)
    · simp only [List.mem_cons, List.not_mem_nil, or_false] at hs
      rcases hs with rfl | rfl | rfl
      · exact .blankLine
      · exact whole_literal (by decide)
      · exact (setter_oneLine htarget hname htype).whole_block
  intro s hs
  simp only [propertySteps, List.mem_cons, List.not_mem_nil, or_false] at hs
  rcases hs with rfl | rfl
  · rw [← String.append_empty (s := declaration _ _ _)]
    exact whole_declaration (propertyModifiers p) htype (unbroken_escaped hname) (by decide)
  · refine .block fun s hs => ?_
    rcases List.mem_append.mp hs with hs | hs
    · simp only [List.mem_cons, List.not_mem_nil, or_false] at hs
      rcases hs with rfl | rfl
      · exact whole_literal (by decide)
      · exact (getter_oneLine htarget hname htype).whole_block
    · exact hsetter s hs

end

theorem unbroken_freshName {taken : List String} {steps : Nat} {name : String}
    (h : Unbroken name) : Unbroken (freshName taken steps name) := by
  obtain ⟨more, hmore⟩ := exists_freshName_eq taken steps name
  rw [hmore, unbroken_append]
  exact ⟨h, by simp [Unbroken]⟩

structure MethodOneLine (m : MethodDescriptor) : Prop where
  name : Unbroken m.name
  returnType : Unbroken m.returnType
  parameters : ∀ p ∈ m.parameters, ∀ s ∈ p.strings, Unbroken s
  typeParameters : ∀ p ∈ m.typeParameters, ∀ s ∈ p.strings, Unbroken s

theorem methodOneLine_of_strings {m : MethodDescriptor} (h : ∀ s ∈ m.strings, Unbroken s) :
    MethodOneLine m where
  name := h _ (by simp [MethodDescriptor.strings])
  returnType := h _ (by simp [MethodDescriptor.strings])
  parameters := by
    intro p hp s hs
    exact h s (List.mem_append_left _ (List.mem_append_right _ (List.mem_flatMap.mpr ⟨p, hp, hs⟩)))
  typeParameters := by
    intro p hp s hs
    exact h s (List.mem_append_right _ (List.mem_flatMap.mpr ⟨p, hp, hs⟩))

theorem unbroken_declareParameter {p : ParameterDescriptor} (h : ∀ s ∈ p.strings, Unbroken s) :
    Unbroken (declareParameter p) := by
  have hname : Unbroken p.name := h _ (by simp [ParameterDescriptor.strings])
  have htype : Unbroken p.typeName := h _ (by simp [ParameterDescriptor.strings])
  have hkeyword : Unbroken (parameterKeyword p.passing) := by
    cases p.passing <;> decide
  simp +decide [declareParameter, hkeyword, htype, unbroken_escaped hname]

theorem unbroken_passArgument {p : ParameterDescriptor} (h : ∀ s ∈ p.strings, Unbroken s) :
    Unbroken (passArgument p) := by
  have hname : Unbroken p.name := h _ (by simp [ParameterDescriptor.strings])
  have hkeyword : Unbroken (argumentKeyword p.passing) := by
    cases p.passing <;> decide
  simp [passArgument, hkeyword, unbroken_escaped hname]

theorem methodSignature_oneLine {m : MethodDescriptor} (h : MethodOneLine m) :
    (methodSignature m).OneLine where
  refKeyword := unbroken_refKeywords m.modifiers
  returnType := h.returnType
  name := unbroken_escaped h.name
  typeParameters := h.typeParameters
  parameters := by
    intro s hs
    obtain ⟨p, hp, rfl⟩ := List.mem_map.mp hs
    exact unbroken_declareParameter (h.parameters p hp)

section

variable {targetType : String} (htarget : Unbroken targetType)

include htarget

theorem methodAccessor_oneLine {m : MethodDescriptor} (h : MethodOneLine m) :
    (methodAccessor targetType m).OneLine where
  refKeyword := unbroken_refKeywords m.modifiers
  returnType := h.returnType
  name := by simp +decide [methodAccessor, h.name]
  typeParameters := h.typeParameters
  parameters := by
    intro s hs
    rcases List.mem_cons.mp hs with rfl | hs
    · have hreceiver : Unbroken (receiverName m.parameters) := unbroken_freshName (by decide)
      simp +decide [htarget, hreceiver]
    · exact (methodSignature_oneLine h).parameters s hs

theorem methodForwarding_oneLine {m : MethodDescriptor} (h : MethodOneLine m) :
    (methodForwarding targetType m).OneLine where
  member := h.name
  receiver := unbroken_ite (by decide) (unbroken_ite (by decide) (by decide))
  arguments := by
    intro a ha
    obtain ⟨p, hp, rfl⟩ := List.mem_map.mp ha
    exact unbroken_passArgument (h.parameters p hp)
  accessor := methodAccessor_oneLine htarget h
  code := isCode_accessorName (by decide) m.name

theorem whole_methodSteps {m : MethodDescriptor} (h : MethodOneLine m) :
    ∀ s ∈ methodSteps targetType m, Whole s := by
  intro s hs
  simp only [methodSteps, List.mem_cons, List.not_mem_nil, or_false] at hs
  rcases hs with rfl | rfl
  · rw [String.append_assoc]
    refine whole_line (by decide) ?_
    simp [(methodSignature_oneLine h).text]
  · exact (methodForwarding_oneLine htarget h).whole_block

end

/-! ## The companion -/

structure Proxy.OneLine (p : Proxy) : Prop where
  name : Unbroken p.name
  targetType : Unbroken p.targetType
  subjectDisplay : Unbroken p.subjectDisplay
  namespaceName : ∀ n, p.namespaceName = some n → Unbroken n
  genericParameters : ∀ g ∈ p.genericParameters, Unbroken g
  properties : ∀ d ∈ p.properties, ∀ s ∈ d.strings, Unbroken s
  methods : ∀ d ∈ p.methods, MethodOneLine d

namespace Proxy

theorem oneLine_of_strings {p : Proxy} (h : ∀ s ∈ p.strings, Unbroken s) : p.OneLine where
  name := h _ (by simp [strings])
  targetType := h _ (by simp [strings])
  subjectDisplay := h _ (by simp [strings])
  namespaceName := fun n hn => h n (by simp [strings, hn])
  genericParameters := fun g hg => h g (by simp [strings, hg])
  properties := by
    intro d hd s hs
    exact h s (List.mem_append_left _ (List.mem_append_right _ (List.mem_flatMap.mpr ⟨d, hd, hs⟩)))
  methods := by
    intro d hd
    refine methodOneLine_of_strings fun s hs => ?_
    exact h s (List.mem_append_right _ (List.mem_flatMap.mpr ⟨d, hd, hs⟩))

variable {p : Proxy} (h : p.OneLine)

include h

theorem OneLine.genericList : Unbroken p.genericList := by
  refine unbroken_ite (by decide) ?_
  simp +decide [unbroken_intercalate h.genericParameters]

theorem OneLine.declaredName : Unbroken p.declaredName :=
  unbroken_append.mpr ⟨h.name, h.genericList⟩

theorem OneLine.whole_instanceSteps : ∀ s ∈ p.instanceSteps, Whole s := by
  intro s hs
  -- The names are opened so that every line is seen to begin with the language's own text.
  unfold instanceSteps backingField guardName at hs
  split at hs
  · exact absurd hs (by simp)
  · simp only [String.append_assoc, List.mem_cons, List.not_mem_nil, or_false] at hs
    rcases hs with rfl | rfl | rfl | rfl | rfl | rfl | rfl | rfl
    · refine whole_line (by decide) ?_
      simp +decide [h.targetType]
    · exact .blankLine
    · refine whole_line (by decide) ?_
      simp +decide [h.name, h.targetType]
    · refine .block fun s hs => ?_
      obtain rfl := List.mem_singleton.mp hs
      exact whole_line (by decide) (unbroken_literal (by decide))
    · exact .blankLine
    · exact whole_line (by decide) (by decide +kernel)
    · refine .block fun s hs => ?_
      simp only [List.mem_cons, List.not_mem_nil, or_false] at hs
      rcases hs with rfl | rfl
      · exact whole_line (by decide) (by decide +kernel)
      · refine .block fun s hs => ?_
        obtain rfl := List.mem_singleton.mp hs
        refine whole_line (by decide) ?_
        simp +decide [h.subjectDisplay]
    · exact .blankLine

theorem OneLine.whole_memberSteps : ∀ s ∈ p.memberSteps, Whole s := by
  intro s hs
  rcases List.mem_append.mp hs with hs | hs
  · obtain ⟨d, hd, hs⟩ := List.mem_flatMap.mp hs
    rcases List.mem_append.mp hs with hs | hs
    · exact whole_propertySteps h.targetType (h.properties d hd) s hs
    · obtain rfl := List.mem_singleton.mp hs
      exact .blankLine
  · obtain ⟨d, hd, hs⟩ := List.mem_flatMap.mp hs
    rcases List.mem_append.mp hs with hs | hs
    · exact whole_methodSteps h.targetType (h.methods d hd) s hs
    · obtain rfl := List.mem_singleton.mp hs
      exact .blankLine

theorem OneLine.whole_conversionSteps : ∀ s ∈ p.conversionSteps, Whole s := by
  intro s hs
  unfold conversionSteps at hs
  split at hs
  · simp only [String.append_assoc, List.mem_cons, List.not_mem_nil, or_false] at hs
    rcases hs with rfl | rfl
    · refine whole_line (by decide) ?_
      simp +decide [h.declaredName, h.targetType]
    · exact .blankLine
  · exact absurd hs (by simp)

theorem OneLine.whole_typeSteps : ∀ s ∈ p.typeSteps, Whole s := by
  intro s hs
  simp only [typeSteps, List.mem_cons, List.not_mem_nil, or_false] at hs
  rcases hs with rfl | rfl
  · exact whole_declaration p.modifiers (by decide) h.name h.genericList
  · refine .block fun s hs => ?_
    rcases List.mem_append.mp hs with hs | hs
    · rcases List.mem_append.mp hs with hs | hs
      · exact h.whole_instanceSteps s hs
      · exact h.whole_memberSteps s hs
    · exact h.whole_conversionSteps s hs

theorem OneLine.whole_steps : ∀ s ∈ p.steps, Whole s := by
  unfold steps
  cases hn : p.namespaceName with
  | none => exact h.whole_typeSteps
  | some n =>
    intro s hs
    simp only [List.mem_cons, List.not_mem_nil, or_false] at hs
    rcases hs with rfl | rfl
    · exact whole_line (by decide) (h.namespaceName n hn)
    · exact .block h.whole_typeSteps

end Proxy

theorem linesOfAll_line_block (level : Nat) (text : String) (body : List Step) :
    linesOfAll level [.line text, .block body]
      = linesOf level (.line text) ++ indented level ['\x7b'] :: linesOfAll (level + 1) body
        ++ [indented level ['\x7d']] := by
  simp [linesOfAll, linesOf]

/-- A companion ends with the brace that closes its outermost block. -/
theorem Proxy.exists_linesOfAll_steps (p : Proxy) :
    ∃ lines, linesOfAll 0 p.steps = lines ++ [['\x7d']] := by
  unfold steps
  cases p.namespaceName with
  | none => exact ⟨_, linesOfAll_line_block 0 _ _⟩
  | some n => exact ⟨_, linesOfAll_line_block 0 _ _⟩

/-- **Every companion is laid out**, if no text that it is written from breaks a line. Writing it
    never dedents at level zero, and its text ends with the end of a brace's line. -/
theorem Proxy.text_laidOut (p : Proxy) (h : ∀ s ∈ p.strings, Unbroken s) :
    text? p.steps = some p.text
      ∧ "\x7d\n".toList <:+ p.text.toList ∧ ¬ "\n\n".toList <:+ p.text.toList
      ∧ LaidOut 0 (p.text.toList.splitOn '\n') := by
  have hwhole := (oneLine_of_strings h).whole_steps
  have hsome := text?_eq_some hwhole
  have htext : p.text = String.ofList (ended (linesOfAll 0 p.steps)) := by
    rw [text, hsome, Option.getD_some]
  obtain ⟨lines, hlines⟩ := p.exists_linesOfAll_steps
  have hend : p.text.toList = ended lines ++ ['\x7d', '\n'] := by
    rw [htext, String.toList_ofList, hlines, ended_append]
    rfl
  refine ⟨by rw [hsome, htext], ⟨ended lines, hend.symm⟩, ?_, ?_⟩
  -- The last two characters are a brace and its line's end, so they are not two ends.
  · rintro ⟨before, hbefore⟩
    rw [hend] at hbefore
    have hlast := List.append_inj_right' hbefore rfl
    exact absurd hlast (by decide)
  · rw [htext, String.toList_ofList,
      splitOn_ended (unbroken_linesOfAll fun s hs => unbroken_linesOf (hwhole s hs) 0)]
    exact (laidOut_linesOfAll fun s hs => laidOut_linesOf (hwhole s hs) 0).append (.empty 0)

/-- The companion of a class with a property and a generic method. -/
def pointCompanion : Proxy where
  name := "PointProxy"
  namespaceName := some "Shapes"
  targetType := "global::Shapes.Point"
  subjectDisplay := "Shapes.Point"
  properties := [{ name := "X", typeName := "int", modifiers := {} }]
  methods :=
    [{ name := "Move", returnType := "void", modifiers := {}
       parameters := [{ name := "by", typeName := "T", passing := .byIn }]
       typeParameters := [{ name := "T", constraints := ["struct"] }] }]
  implicitConversion := true

theorem pointCompanion_laidOut :
    text? pointCompanion.steps = some pointCompanion.text
      ∧ "\x7d\n".toList <:+ pointCompanion.text.toList
      ∧ ¬ "\n\n".toList <:+ pointCompanion.text.toList
      ∧ LaidOut 0 (pointCompanion.text.toList.splitOn '\n') :=
  Proxy.text_laidOut pointCompanion (by decide +kernel)

end Source

end Companion
