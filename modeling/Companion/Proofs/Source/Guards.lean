import Companion.Proofs.Source.Lines
import Companion.Source.Proxy

/-!
# Guards and receivers

An instance member of a companion reaches the subject that the companion holds, and refuses to run
if it holds none. A static member has no subject and nothing to refuse. This file reads that off the
lines of the text: what the body of an accessor runs, what it calls with which first argument, and
what the call is bound to (`Reaches`).

**No condition on the strings.** A line's first characters are the language's own, whatever names
and types the member has, so no line of a body is taken for a guard or for a binding by mistake.
-/

namespace Companion.Source

open Line

/-! ## Lines at a level -/

/-- A text on a line of its own. An empty line is not indented. -/
def lineAt (level : Nat) (text : String) : Line :=
  if text = "" then [] else indented level text.toList

/-- Lines between braces. -/
def braced (level : Nat) (body : List Line) : List Line :=
  indented level ['\x7b'] :: (body ++ [indented level ['\x7d']])

/-- Statements between braces, one deeper. -/
def bodyAt (level : Nat) (statements : List String) : List Line :=
  braced level (statements.map (lineAt (level + 1)))

theorem linesOf_line (level : Nat) (text : String) :
    linesOf level (.line text) = [lineAt level text] := rfl

theorem linesOf_blankLine (level : Nat) : linesOf level .blankLine = [[]] := rfl

theorem linesOf_block (level : Nat) (body : List Step) :
    linesOf level (.block body) = braced level (linesOfAll (level + 1) body) := rfl

theorem linesOfAll_append (level : Nat) (a b : List Step) :
    linesOfAll level (a ++ b) = linesOfAll level a ++ linesOfAll level b := by
  induction a with
  | nil => rfl
  | cons s rest ih => simp [linesOfAll, ih]

theorem linesOfAll_flatMap {α : Type} (level : Nat) (f : α → List Step) (items : List α) :
    linesOfAll level (items.flatMap f) = items.flatMap fun a => linesOfAll level (f a) := by
  induction items with
  | nil => rfl
  | cons a rest ih => rw [List.flatMap_cons, linesOfAll_append, ih, List.flatMap_cons]

theorem linesOfAll_lines (level : Nat) (texts : List String) :
    linesOfAll level (texts.map .line) = texts.map (lineAt level) := by
  induction texts with
  | nil => rfl
  | cons text rest ih => simp [linesOfAll, linesOf_line, ih]

/-! ## What a body has to do -/

/-- The statement that refuses to go on without a subject. -/
def guardCall : String := "ThrowInvalidOperationIfNotInitialized();"

/-- The argument that stands for the subject where arguments of these names are handed on too. A
    name that is the backing field's hides it, so the field is then reached through the
    companion. -/
def subjectArgument (isStatic : Bool) (names : List String) : String :=
  if isStatic then "null!" else if "_target" ∈ names then "this._target" else "_target"

def bindingTarget (isStatic : Bool) : String :=
  if isStatic then "global::System.Runtime.CompilerServices.UnsafeAccessorKind.StaticMethod"
  else "global::System.Runtime.CompilerServices.UnsafeAccessorKind.Method"

/-- What binds a local accessor to a member of the subject. -/
def binding (isStatic : Bool) (member : String) : String :=
  "[global::System.Runtime.CompilerServices.UnsafeAccessor(" ++ bindingTarget isStatic
    ++ ", Name = \"" ++ member ++ "\")]"

def isAttribute (statement : String) : Bool :=
  statement.toList.head? == some '['

/-- The body reaches a member of the subject: behind the guard of an instance member it calls an
    accessor with these arguments, and it has one binding, which is to that member. -/
structure Reaches (isStatic : Bool) (member callee : String) (arguments : List String)
    (body : List String) : Prop where
  guarded : isStatic = false → body.head? = some guardCall
  unguarded : isStatic = true → guardCall ∉ body
  /-- Nothing else is run: an empty line comes next, and then declarations. -/
  calls : ∃ hand : Hand, body.takeWhile (· ≠ "") = (if isStatic then [] else [guardCall])
    ++ [hand.keyword ++ callee ++ "(" ++ ", ".intercalate arguments ++ ");"]
  bound : body.filter isAttribute = [binding isStatic member]

/-! ## First characters -/

/-- The text begins with that character. -/
def Begins (c : Char) (text : String) : Prop :=
  text.toList.head? = some c

theorem Begins.append {c : Char} {text : String} (h : Begins c text) (more : String) :
    Begins c (text ++ more) := by
  unfold Begins at h ⊢
  rw [String.toList_append, List.head?_append, h]
  rfl

theorem Begins.unique {c d : Char} {text : String} (hc : Begins c text) (hd : Begins d text) :
    c = d := by
  unfold Begins at hc hd
  rw [hc] at hd
  exact Option.some.inj hd

theorem Begins.ne_empty {c : Char} {text : String} (h : Begins c text) : text ≠ "" := by
  rintro rfl
  exact absurd h (by simp [Begins])

theorem Begins.isAttribute {c : Char} {text : String} (h : Begins c text) :
    isAttribute text = (c == '[') := by
  unfold Begins at h
  rw [Source.isAttribute, h]
  rfl

theorem begins_guardCall : Begins 'T' guardCall := by
  unfold Begins
  decide +kernel

theorem begins_binding (isStatic : Bool) (member : String) :
    Begins '[' (binding isStatic member) := by
  have hlead : Begins '[' "[global::System.Runtime.CompilerServices.UnsafeAccessor(" := by
    unfold Begins
    decide +kernel
  exact ((hlead.append _).append _).append _ |>.append _

/-! ## Forwarding -/

namespace Forwarding

theorem guards_eq (f : Forwarding) : f.guards = if f.isStatic then [] else [guardCall] := by
  have hcall : guardName ++ "();" = guardCall := by decide +kernel
  rw [guards, hcall]

theorem bindingAttribute_eq (f : Forwarding) :
    f.bindingAttribute = binding f.isStatic f.member := by
  have hkind : bindingKind f.isStatic = bindingTarget f.isStatic := by
    cases f.isStatic with
    | false => decide +kernel
    | true => decide +kernel
  unfold bindingAttribute binding
  rw [hkind]

/-- The accessor is named like one: by what it does, and then by its member. -/
def Named (f : Forwarding) : Prop :=
  ∃ c ∈ ['G', 'S', 'C'], Begins c f.accessor.name

/-- The call begins with what becomes of its result, or with the accessor's name. -/
theorem Named.exists_begins_call {f : Forwarding} (h : f.Named) :
    ∃ c ∈ ['r', 'G', 'S', 'C'], Begins c f.call := by
  obtain ⟨c, hc, hname⟩ := h
  have hlead : ∃ c ∈ ['r', 'G', 'S', 'C'], Begins c (f.hand.keyword ++ f.accessor.name) := by
    cases f.hand with
    | nothing => exact ⟨c, List.mem_cons_of_mem _ hc, by simpa [Hand.keyword] using hname⟩
    | value => exact ⟨'r', List.mem_cons_self, .append (by unfold Begins; decide +kernel) _⟩
    | reference => exact ⟨'r', List.mem_cons_self, .append (by unfold Begins; decide +kernel) _⟩
  obtain ⟨d, hd, hbegins⟩ := hlead
  rw [call_eq]
  exact ⟨d, hd, (((hbegins.append _).append _).append _).append _⟩

/-- **A forwarding reaches its member** with its receiver as the first argument. The other lines of
    its body begin with other characters than the guard and the binding. -/
theorem Named.reaches {f : Forwarding} (h : f.Named) :
    Reaches f.isStatic f.member (f.accessor.name ++ typeParameterList f.accessor.typeParameters)
      (f.receiver :: f.arguments) f.lines := by
  obtain ⟨c, hc, hcall⟩ := h.exists_begins_call
  have hbound : Begins 'e' ("extern static " ++ f.accessor.text ++ ";") :=
    ((show Begins 'e' "extern static " by unfold Begins; decide +kernel).append _).append _
  have hlines : f.lines = (if f.isStatic then [] else [guardCall])
      ++ [f.call, "", binding f.isStatic f.member, "extern static " ++ f.accessor.text ++ ";"] := by
    rw [lines, guards_eq, bindingAttribute_eq]
  have hother : c ≠ '[' ∧ c ≠ 'T' := by
    simp only [List.mem_cons, List.not_mem_nil, or_false] at hc
    rcases hc with rfl | rfl | rfl | rfl <;> decide
  rw [hlines]
  refine ⟨?_, ?_, ⟨f.hand, ?_⟩, ?_⟩
  · intro hinstance
    rw [hinstance]
    rfl
  · intro hstatic hguard
    rw [if_pos hstatic, List.nil_append] at hguard
    simp only [List.mem_cons, List.not_mem_nil, or_false] at hguard
    rcases hguard with hguard | hguard | hguard | hguard
    · exact hother.2 (hcall.unique (hguard ▸ begins_guardCall))
    · exact begins_guardCall.ne_empty hguard
    · exact absurd ((begins_binding _ _).unique (hguard ▸ begins_guardCall)) (by decide)
    · exact absurd (hbound.unique (hguard ▸ begins_guardCall)) (by decide)
  · cases f.isStatic with
    | false => simp [begins_guardCall.ne_empty, call_eq, String.append_assoc]
    | true => simp [call_eq, String.append_assoc]
  · have hrest : [f.call, "", binding f.isStatic f.member,
        "extern static " ++ f.accessor.text ++ ";"].filter isAttribute
          = [binding f.isStatic f.member] := by
      simp only [List.filter_cons, hcall.isAttribute, (begins_binding _ _).isAttribute,
        hbound.isAttribute, show isAttribute "" = false from rfl]
      simp [hother.1]
    rw [List.filter_append, hrest]
    cases f.isStatic with
    | false => simp [begins_guardCall.isAttribute]
    | true => rfl

theorem linesOf_block (level : Nat) (f : Forwarding) :
    linesOf level f.block = bodyAt level f.lines := by
  rw [block, Source.linesOf_block, linesOfAll_lines, bodyAt]

end Forwarding

/-! ## Members -/

/-- The lines of a property: it reads the subject's, and unless it is read-only it writes it. -/
def GuardedProperty (level : Nat) (p : PropertyDescriptor) (lines : List Line) : Prop :=
  ∃ header getBody setBody,
    lines = lineAt level header :: braced level
      (lineAt (level + 1) "get" :: bodyAt (level + 1) getBody
        ++ if p.modifiers.isReadOnly then []
          else [] :: lineAt (level + 1) "set" :: bodyAt (level + 1) setBody)
    ∧ Reaches p.modifiers.isStatic ("get_" ++ p.name) ("Get" ++ p.name)
      [subjectArgument p.modifiers.isStatic []] getBody
    ∧ Reaches p.modifiers.isStatic ("set_" ++ p.name) ("Set" ++ p.name)
      [subjectArgument p.modifiers.isStatic ["value"], "value"] setBody

/-- The lines of a method: it calls the subject's with its own parameters. -/
def GuardedMethod (level : Nat) (m : MethodDescriptor) (lines : List Line) : Prop :=
  ∃ header body,
    lines = lineAt level header :: bodyAt level body
    ∧ Reaches m.modifiers.isStatic m.name ("Call" ++ m.name ++ typeParameterList m.typeParameters)
      (subjectArgument m.modifiers.isStatic (m.parameters.map (·.name))
        :: m.parameters.map passArgument) body

theorem propertyReceiver_eq (p : PropertyDescriptor) {names : List String}
    (h : "_target" ∉ names) :
    propertyReceiver p = subjectArgument p.modifiers.isStatic names := by
  rw [propertyReceiver, subjectArgument, if_neg h]
  rfl

theorem methodReceiver_eq (m : MethodDescriptor) :
    methodReceiver m = subjectArgument m.modifiers.isStatic (m.parameters.map (·.name)) := by
  have hthis : "this." ++ backingField = "this._target" := by decide +kernel
  have hhidden : m.parameters.any (·.name == backingField) = true
      ↔ "_target" ∈ m.parameters.map (·.name) := by
    simp [backingField]
  rw [methodReceiver, subjectArgument, hthis]
  simp only [hhidden]
  rfl

theorem reaches_getter (targetType : String) (p : PropertyDescriptor) :
    Reaches p.modifiers.isStatic ("get_" ++ p.name) ("Get" ++ p.name)
      [subjectArgument p.modifiers.isStatic []] (getter targetType p).lines := by
  have hnamed : (getter targetType p).Named :=
    ⟨'G', by decide, .append (by unfold Begins; decide +kernel) _⟩
  have hreaches := hnamed.reaches
  rw [← propertyReceiver_eq p (by decide)]
  simpa [getter, typeParameterList] using hreaches

theorem reaches_setter (targetType : String) (p : PropertyDescriptor) :
    Reaches p.modifiers.isStatic ("set_" ++ p.name) ("Set" ++ p.name)
      [subjectArgument p.modifiers.isStatic ["value"], "value"] (setter targetType p).lines := by
  have hnamed : (setter targetType p).Named :=
    ⟨'S', by decide, .append (by unfold Begins; decide +kernel) _⟩
  have hreaches := hnamed.reaches
  rw [← propertyReceiver_eq p (by decide)]
  simpa [setter, typeParameterList] using hreaches

theorem reaches_methodForwarding (targetType : String) (m : MethodDescriptor) :
    Reaches m.modifiers.isStatic m.name ("Call" ++ m.name ++ typeParameterList m.typeParameters)
      (subjectArgument m.modifiers.isStatic (m.parameters.map (·.name))
        :: m.parameters.map passArgument) (methodForwarding targetType m).lines := by
  have hnamed : (methodForwarding targetType m).Named :=
    ⟨'C', by decide, .append (by unfold Begins; decide +kernel) _⟩
  rw [← methodReceiver_eq]
  exact hnamed.reaches

theorem guarded_propertySteps (level : Nat) (targetType : String) (p : PropertyDescriptor) :
    GuardedProperty level p (linesOfAll level (propertySteps targetType p)) := by
  refine ⟨declaration (propertyModifiers p) p.typeName (Identifier.escaped p.name),
    (getter targetType p).lines, (setter targetType p).lines, ?_,
    reaches_getter targetType p, reaches_setter targetType p⟩
  have hsetter : linesOfAll (level + 1) (setterSteps targetType p)
      = if p.modifiers.isReadOnly then []
        else [] :: lineAt (level + 1) "set" :: bodyAt (level + 1) (setter targetType p).lines := by
    unfold setterSteps
    cases p.modifiers.isReadOnly with
    | false => simp [linesOfAll, linesOf_line, linesOf_blankLine, Forwarding.linesOf_block]
    | true => rfl
  rw [← hsetter]
  simp [propertySteps, linesOfAll, linesOf_line, linesOf_block, Forwarding.linesOf_block]

theorem guarded_methodSteps (level : Nat) (targetType : String) (m : MethodDescriptor) :
    GuardedMethod level m (linesOfAll level (methodSteps targetType m)) := by
  refine ⟨"public " ++ modifierKeywords m.modifiers ++ (methodSignature m).text,
    (methodForwarding targetType m).lines, ?_, reaches_methodForwarding targetType m⟩
  simp [methodSteps, linesOfAll, linesOf_line, Forwarding.linesOf_block]

/-! ## The companion -/

@[simp] theorem Forwarding.linewise_block (f : Forwarding) : Linewise f.block := by
  simp [block]

theorem linewise_propertySteps (targetType : String) (p : PropertyDescriptor) :
    ∀ s ∈ propertySteps targetType p, Linewise s := by
  have hsetter : ∀ s ∈ setterSteps targetType p, Linewise s := by
    unfold setterSteps
    split <;> simp
  simpa [propertySteps] using hsetter

theorem linewise_methodSteps (targetType : String) (m : MethodDescriptor) :
    ∀ s ∈ methodSteps targetType m, Linewise s := by
  simp [methodSteps]

namespace Proxy

/-- What an instance companion holds its subject by: the field, the constructor that refuses to
    hold nothing, and the guard. -/
def holder (p : Proxy) (level : Nat) : List Line :=
  [lineAt level ("private readonly " ++ p.targetType ++ " _target;"), [],
    lineAt level ("public " ++ p.name ++ "(" ++ p.targetType ++ " target)")]
  ++ bodyAt level
    ["_target = target ?? throw new global::System.ArgumentNullException(nameof(target));"]
  ++ [[], lineAt level "private readonly void ThrowInvalidOperationIfNotInitialized()"]
  ++ braced level (lineAt (level + 1) "if (_target is null)" ::
    bodyAt (level + 1) ["throw new global::System.InvalidOperationException(\"Proxy for '"
      ++ p.subjectDisplay ++ "' is uninitialized\");"])
  ++ [[]]

theorem linesOfAll_instanceSteps (p : Proxy) (level : Nat) :
    linesOfAll level p.instanceSteps = if p.modifiers.isStatic then [] else p.holder level := by
  unfold instanceSteps
  cases p.modifiers.isStatic with
  | true => rfl
  | false =>
    simp [linesOfAll, linesOf_line, linesOf_blankLine, linesOf_block, holder, bodyAt,
      backingField, guardName, String.append_assoc]

theorem linewise_typeSteps (p : Proxy) : ∀ s ∈ p.typeSteps, Linewise s := by
  have hinstance : ∀ s ∈ p.instanceSteps, Linewise s := by
    unfold instanceSteps
    split <;> simp
  have hmember : ∀ s ∈ p.memberSteps, Linewise s := by
    intro s hs
    rcases List.mem_append.mp hs with hs | hs
    · obtain ⟨d, -, hs⟩ := List.mem_flatMap.mp hs
      rcases List.mem_append.mp hs with hs | hs
      · exact linewise_propertySteps p.targetType d s hs
      · obtain rfl := List.mem_singleton.mp hs
        exact .blankLine
    · obtain ⟨d, -, hs⟩ := List.mem_flatMap.mp hs
      rcases List.mem_append.mp hs with hs | hs
      · exact linewise_methodSteps p.targetType d s hs
      · obtain rfl := List.mem_singleton.mp hs
        exact .blankLine
  have hconversion : ∀ s ∈ p.conversionSteps, Linewise s := by
    unfold conversionSteps
    split <;> simp
  intro s hs
  simp only [typeSteps, List.mem_cons, List.not_mem_nil, or_false] at hs
  rcases hs with rfl | rfl
  · exact .line _
  · refine .block fun s hs => ?_
    rcases List.mem_append.mp hs with hs | hs
    · exact (List.mem_append.mp hs).elim (hinstance s) (hmember s)
    · exact hconversion s hs

theorem linewise_steps (p : Proxy) : ∀ s ∈ p.steps, Linewise s := by
  unfold steps
  cases p.namespaceName with
  | none => exact p.linewise_typeSteps
  | some n => simpa using p.linewise_typeSteps

/-- The lines inside a companion's braces: the holder, each property, each method and the
    conversion. -/
theorem linesOfAll_inside (p : Proxy) (level : Nat) :
    linesOfAll level (p.instanceSteps ++ p.memberSteps ++ p.conversionSteps)
      = (if p.modifiers.isStatic then [] else p.holder level)
        ++ p.properties.flatMap (fun d => linesOfAll level (propertySteps p.targetType d) ++ [[]])
        ++ p.methods.flatMap (fun d => linesOfAll level (methodSteps p.targetType d) ++ [[]])
        ++ linesOfAll level p.conversionSteps := by
  simp only [memberSteps, linesOfAll_append, linesOfAll_flatMap, linesOfAll_instanceSteps,
    List.append_assoc]
  rfl

/-- A companion around the lines inside its braces, in its namespace if it has one. -/
def enclosed (p : Proxy) (inside : Nat → List Line) : List Line :=
  let type level := lineAt level (declaration p.modifiers "struct" p.name ++ p.genericList)
    :: braced level (inside (level + 1))
  match p.namespaceName with
  | none => type 0
  | some n => lineAt 0 ("namespace " ++ n) :: braced 0 (type 1)

theorem linesOfAll_steps (p : Proxy) :
    linesOfAll 0 p.steps = p.enclosed fun level =>
      linesOfAll level (p.instanceSteps ++ p.memberSteps ++ p.conversionSteps) := by
  unfold steps enclosed
  cases p.namespaceName with
  | none => simp [typeSteps, linesOfAll, linesOf_line, linesOf_block]
  | some n => simp [typeSteps, linesOfAll, linesOf_line, linesOf_block]

theorem text_eq_ended (p : Proxy) :
    p.text = String.ofList (ended (linesOfAll 0 p.steps)) := by
  rw [text, text?_eq_ended p.linewise_steps, Option.getD_some]

/-- **Every accessor of a companion is guarded**, and reaches its member through the field, unless
    the member is static. An instance companion begins with the field, the constructor and the
    guard, and the members come behind them. -/
theorem text_guarded (p : Proxy) :
    ∃ (property : Nat → PropertyDescriptor → List Line)
      (method : Nat → MethodDescriptor → List Line),
      p.text = String.ofList (ended (p.enclosed fun level =>
        (if p.modifiers.isStatic then [] else p.holder level)
          ++ p.properties.flatMap (fun d => property level d ++ [[]])
          ++ p.methods.flatMap (fun d => method level d ++ [[]])
          ++ linesOfAll level p.conversionSteps))
      ∧ (∀ level d, GuardedProperty level d (property level d))
      ∧ ∀ level d, GuardedMethod level d (method level d) := by
  refine ⟨fun level d => linesOfAll level (propertySteps p.targetType d),
    fun level d => linesOfAll level (methodSteps p.targetType d), ?_,
    fun level d => guarded_propertySteps level p.targetType d,
    fun level d => guarded_methodSteps level p.targetType d⟩
  rw [text_eq_ended, linesOfAll_steps]
  simp only [linesOfAll_inside]

end Proxy

end Companion.Source
