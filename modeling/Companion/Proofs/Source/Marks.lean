import Companion.Source.Proxy

/-!
# Names in the text of a member

What is written for a member is text, and in text a name is like everything else. Here the same text
is put together from pieces (`Piece`), in which each name is marked: by what it is the name of, and by
whether it is declared there or looked up. Without its marks the text is the one that is written:

> **`propertySteps_eq` and `methodSteps_eq`**, for every property and every method.

So what is proved about the marks is about the names in what is written. Types, and the texts of
attributes, are no names of the member and stay unmarked.
-/

namespace Companion.Source

/-! ## Pieces -/

/-- What a name in the text of a member is the name of. -/
inductive Entity where
  /-- The member that is declared. -/
  | member
  /-- The local accessor that its body declares. -/
  | accessor
  /-- The accessor's first parameter. -/
  | receiver
  | parameter (name : String)
  | typeParameter (name : String)
  /-- The companion's field. -/
  | field
  /-- The companion's guard. -/
  | guard
  deriving DecidableEq, Repr

/-- A piece of a line. -/
inductive Piece where
  /-- Text without a name of the member in it. -/
  | plain (text : String)
  /-- A name where it is declared. -/
  | declares (entity : Entity) (spelling : String)
  /-- A name that is looked up where it stands. -/
  | uses (entity : Entity) (spelling : String)
  /-- A name that is looked up in the companion, wherever it stands. -/
  | selects (entity : Entity) (spelling : String)
  deriving DecidableEq, Repr

namespace Piece

def text : Piece → String
  | plain text => text
  | declares _ spelling | uses _ spelling | selects _ spelling => spelling

@[simp] theorem text_plain (text : String) : (plain text).text = text := rfl

@[simp] theorem text_declares (e : Entity) (s : String) : (declares e s).text = s := rfl

@[simp] theorem text_uses (e : Entity) (s : String) : (uses e s).text = s := rfl

@[simp] theorem text_selects (e : Entity) (s : String) : (selects e s).text = s := rfl

/-- The name, and what it is the name of. -/
def name? : Piece → Option (Entity × String)
  | plain _ => none
  | declares entity spelling | uses entity spelling | selects entity spelling =>
    some (entity, spelling)

end Piece

/-- The text of a line without its marks. -/
def unmarked (pieces : List Piece) : String :=
  String.join (pieces.map Piece.text)

/-- The names in a line, each with what it is the name of. -/
def names (pieces : List Piece) : List (Entity × String) :=
  pieces.filterMap Piece.name?

/-- Items separated by commas. -/
def commas (items : List (List Piece)) : List Piece :=
  [.plain ", "].intercalate items

@[simp] theorem unmarked_nil : unmarked [] = "" := rfl

@[simp] theorem unmarked_cons (p : Piece) (rest : List Piece) :
    unmarked (p :: rest) = p.text ++ unmarked rest := by
  simp [unmarked]

@[simp] theorem unmarked_append (a b : List Piece) : unmarked (a ++ b) = unmarked a ++ unmarked b := by
  simp [unmarked]

@[simp] theorem unmarked_commas (items : List (List Piece)) :
    unmarked (commas items) = ", ".intercalate (items.map unmarked) := by
  unfold commas
  induction items with
  | nil => rfl
  | cons item rest ih =>
    cases rest with
    | nil => simp [unmarked]
    | cons next rest =>
      rw [List.intercalate_cons_cons, List.map_cons, List.map_cons, String.intercalate_cons_cons,
        unmarked_append, unmarked_append, ih, List.map_cons]
      rfl

/-- Lines lose their marks before or after they are made into steps. -/
theorem map_line_unmarked (lines : List (List Piece)) :
    lines.map (fun line => Step.line (unmarked line)) = (lines.map unmarked).map .line := by
  rw [List.map_map]
  rfl

@[simp] theorem names_nil : names [] = [] := rfl

@[simp] theorem names_plain (text : String) (rest : List Piece) :
    names (.plain text :: rest) = names rest := rfl

@[simp] theorem names_declares (e : Entity) (s : String) (rest : List Piece) :
    names (.declares e s :: rest) = (e, s) :: names rest := rfl

@[simp] theorem names_uses (e : Entity) (s : String) (rest : List Piece) :
    names (.uses e s :: rest) = (e, s) :: names rest := rfl

@[simp] theorem names_selects (e : Entity) (s : String) (rest : List Piece) :
    names (.selects e s :: rest) = (e, s) :: names rest := rfl

@[simp] theorem names_append (a b : List Piece) : names (a ++ b) = names a ++ names b :=
  List.filterMap_append

/-- What is collected from items does not see the commas between them. -/
theorem filterMap_commas {α : Type} {f : Piece → Option α} (h : ∀ text, f (.plain text) = none)
    (items : List (List Piece)) :
    (commas items).filterMap f = items.flatMap fun item => item.filterMap f := by
  unfold commas
  induction items with
  | nil => rfl
  | cons item rest ih =>
    cases rest with
    | nil => simp
    | cons next rest =>
      rw [List.intercalate_cons_cons, List.filterMap_append, List.filterMap_append, ih,
        List.flatMap_cons]
      simp [h]

@[simp] theorem names_commas (items : List (List Piece)) :
    names (commas items) = items.flatMap names :=
  filterMap_commas (fun _ => rfl) items

/-! ## Signatures and calls -/

def parameterPieces (p : ParameterDescriptor) : List Piece :=
  [.plain (parameterKeyword p.passing ++ p.typeName ++ " "),
    .declares (.parameter p.name) (Identifier.escaped p.name)]

def argumentPieces (p : ParameterDescriptor) : List Piece :=
  [.plain (argumentKeyword p.passing), .uses (.parameter p.name) (Identifier.escaped p.name)]

/-- Type parameters between angle brackets, declared or looked up. -/
def typeParameterPieces (mark : Entity → String → Piece) (ps : List TypeParameterDescriptor) :
    List Piece :=
  if ps.isEmpty then []
  else [.plain "<"] ++ commas (ps.map fun p => [mark (.typeParameter p.name) p.name]) ++ [.plain ">"]

/-- From a list of type parameters one thing is collected for each. -/
theorem filterMap_typeParameterPieces {α : Type} {f : Piece → Option α}
    {mark : Entity → String → Piece} {g : TypeParameterDescriptor → α}
    (hplain : ∀ text, f (.plain text) = none)
    (hmark : ∀ p : TypeParameterDescriptor, f (mark (.typeParameter p.name) p.name) = some (g p))
    (ps : List TypeParameterDescriptor) :
    (typeParameterPieces mark ps).filterMap f = ps.map g := by
  unfold typeParameterPieces
  cases ps with
  | nil => rfl
  | cons p rest =>
    simp only [List.isEmpty_cons, Bool.false_eq_true, if_false, List.filterMap_append,
      List.filterMap_cons, hplain, hmark, List.filterMap_nil, List.nil_append, List.append_nil,
      filterMap_commas hplain, List.flatMap_map]
    exact List.map_eq_flatMap.symm

def constraintPieces (p : TypeParameterDescriptor) : List Piece :=
  if p.constraints.isEmpty then []
  else [.plain " where ", .uses (.typeParameter p.name) p.name,
    .plain (" : " ++ ", ".intercalate p.constraints)]

/-- In the clauses stand no names but those of type parameters, and none is declared. -/
theorem eq_of_mem_constraintPieces {ps : List TypeParameterDescriptor} {piece : Piece}
    (h : piece ∈ ps.flatMap constraintPieces) :
    (∃ text, piece = .plain text) ∨ ∃ p ∈ ps, piece = .uses (.typeParameter p.name) p.name := by
  obtain ⟨p, hp, hpiece⟩ := List.mem_flatMap.mp h
  unfold constraintPieces at hpiece
  split at hpiece
  · cases hpiece
  · simp only [List.mem_cons, List.not_mem_nil, or_false] at hpiece
    obtain rfl | rfl | rfl := hpiece
    · exact .inl ⟨_, rfl⟩
    · exact .inr ⟨p, hp, rfl⟩
    · exact .inl ⟨_, rfl⟩

/-- A declaration of this name, behind whatever stands in front of it. -/
def signaturePieces (front : String) (name : Piece) (ps : List TypeParameterDescriptor)
    (parameters : List (List Piece)) : List Piece :=
  [.plain front, name] ++ typeParameterPieces .declares ps ++ [.plain "("] ++ commas parameters
    ++ [.plain ")"] ++ ps.flatMap constraintPieces

def callPieces (hand : Hand) (accessor : String) (ps : List TypeParameterDescriptor)
    (arguments : List (List Piece)) : List Piece :=
  [.plain hand.keyword, .uses .accessor accessor] ++ typeParameterPieces .uses ps ++ [.plain "("]
    ++ commas arguments ++ [.plain ");"]

@[simp] theorem unmarked_parameterPieces (p : ParameterDescriptor) :
    unmarked (parameterPieces p) = declareParameter p := by
  simp [parameterPieces, declareParameter]

@[simp] theorem unmarked_argumentPieces (p : ParameterDescriptor) :
    unmarked (argumentPieces p) = passArgument p := by
  simp [argumentPieces, passArgument]

/-- Declared and looked up, a list of type parameters is spelled alike. -/
theorem unmarked_typeParameterPieces {mark : Entity → String → Piece}
    (h : ∀ e s, (mark e s).text = s) (ps : List TypeParameterDescriptor) :
    unmarked (typeParameterPieces mark ps) = typeParameterList ps := by
  unfold typeParameterPieces typeParameterList
  split
  · rfl
  · simp [h, Function.comp_def, String.append_assoc]

theorem unmarked_constraintPieces (ps : List TypeParameterDescriptor) :
    unmarked (ps.flatMap constraintPieces) = constraintClauses ps := by
  unfold constraintClauses
  induction ps with
  | nil => rfl
  | cons p rest ih =>
    rw [List.flatMap_cons, unmarked_append, ih, List.map_cons, String.join_cons]
    congr 1
    unfold constraintPieces constraintClause
    split
    · rfl
    · simp [String.append_assoc]

theorem unmarked_signaturePieces (front : String) (name : Piece)
    (ps : List TypeParameterDescriptor) (parameters : List (List Piece)) :
    unmarked (signaturePieces front name ps parameters)
      = front ++ name.text ++ typeParameterList ps
        ++ "(" ++ ", ".intercalate (parameters.map unmarked) ++ ")" ++ constraintClauses ps := by
  simp [signaturePieces, unmarked_typeParameterPieces Piece.text_declares, unmarked_constraintPieces,
    String.append_assoc]

theorem unmarked_callPieces (hand : Hand) (accessor : String) (ps : List TypeParameterDescriptor)
    (arguments : List (List Piece)) :
    unmarked (callPieces hand accessor ps arguments)
      = hand.keyword ++ accessor ++ typeParameterList ps
        ++ "(" ++ ", ".intercalate (arguments.map unmarked) ++ ");" := by
  simp [callPieces, unmarked_typeParameterPieces Piece.text_uses, String.append_assoc]

/-! ## Bodies -/

def guardPieces : List Piece :=
  [.uses .guard guardName, .plain "();"]

/-- The lines of a body: behind the guard of an instance member the call, and the binding with the
    accessor that is called. -/
def bodyPieces (f : Forwarding) (call accessor : List Piece) : List (List Piece) :=
  (if f.isStatic then [] else [guardPieces])
    ++ [call, [], [.plain f.bindingAttribute], accessor ++ [.plain ";"]]

theorem map_unmarked_bodyPieces {f : Forwarding} {call accessor : List Piece}
    (hcall : unmarked call = f.call)
    (haccessor : unmarked accessor = "extern static " ++ f.accessor.text) :
    (bodyPieces f call accessor).map unmarked = f.lines := by
  unfold bodyPieces Forwarding.lines Forwarding.guards
  cases f.isStatic with
  | true => simp [hcall, haccessor]
  | false => simp [hcall, haccessor, guardPieces]

/-! ## Properties -/

def propertyHeader (p : PropertyDescriptor) : List Piece :=
  [.plain ("public " ++ modifierKeywords (propertyModifiers p) ++ refKeywords (propertyModifiers p)
      ++ p.typeName ++ " "),
    .declares .member (Identifier.escaped p.name)]

/-- The argument that stands for the subject of a property. -/
def propertyReceiverPieces (p : PropertyDescriptor) : List Piece :=
  if p.modifiers.isStatic then [.plain staticTarget] else [.uses .field backingField]

/-- The accessor's parameter for the subject. -/
def receiverPieces (targetType name : String) : List Piece :=
  [.plain (targetType ++ " "), .declares .receiver name]

def getterPieces (targetType : String) (p : PropertyDescriptor) : List (List Piece) :=
  bodyPieces (getter targetType p)
    (callPieces .value ("Get" ++ p.name) [] [propertyReceiverPieces p])
    (signaturePieces ("extern static " ++ p.typeName ++ " ") (.declares .accessor ("Get" ++ p.name))
      [] [receiverPieces targetType "target"])

def setterPieces (targetType : String) (p : PropertyDescriptor) : List (List Piece) :=
  bodyPieces (setter targetType p)
    (callPieces .nothing ("Set" ++ p.name) []
      [propertyReceiverPieces p, [.uses (.parameter "value") "value"]])
    (signaturePieces "extern static void " (.declares .accessor ("Set" ++ p.name)) []
      [receiverPieces targetType "target",
        [.plain (p.typeName ++ " "), .declares (.parameter "value") "value"]])

/-- All of a property's pieces. -/
def propertyPieces (targetType : String) (p : PropertyDescriptor) : List Piece :=
  propertyHeader p ++ (getterPieces targetType p).flatten
    ++ if p.modifiers.isReadOnly then [] else (setterPieces targetType p).flatten

theorem unmarked_propertyReceiverPieces (p : PropertyDescriptor) :
    unmarked (propertyReceiverPieces p) = propertyReceiver p := by
  unfold propertyReceiverPieces propertyReceiver
  split <;> simp

theorem map_unmarked_getterPieces (targetType : String) (p : PropertyDescriptor) :
    (getterPieces targetType p).map unmarked = (getter targetType p).lines := by
  refine map_unmarked_bodyPieces ?_ ?_
  · simp [unmarked_callPieces, unmarked_propertyReceiverPieces, Forwarding.call_eq, getter]
  · simp [unmarked_signaturePieces, receiverPieces, Signature.text_eq, getter,
      constraintClauses, String.append_assoc]

theorem map_unmarked_setterPieces (targetType : String) (p : PropertyDescriptor) :
    (setterPieces targetType p).map unmarked = (setter targetType p).lines := by
  refine map_unmarked_bodyPieces ?_ ?_
  · simp [unmarked_callPieces, unmarked_propertyReceiverPieces, Forwarding.call_eq, setter]
  · have hvoid : "extern static void " = "extern static " ++ "void " := by decide +kernel
    have hrest : ∀ rest, "extern static void " ++ rest = "extern static " ++ ("void " ++ rest) :=
      fun rest => by rw [hvoid, String.append_assoc]
    simp [unmarked_signaturePieces, receiverPieces, Signature.text_eq, setter, constraintClauses,
      String.append_assoc, hrest]

/-- The lines of a property without their marks, as they are laid out. -/
def unmarkedPropertySteps (targetType : String) (p : PropertyDescriptor) : List Step :=
  [.line (unmarked (propertyHeader p)),
    .block ([.line "get", .block ((getterPieces targetType p).map (.line <| unmarked ·))]
      ++ if p.modifiers.isReadOnly then []
        else [.blankLine, .line "set",
          .block ((setterPieces targetType p).map (.line <| unmarked ·))])]

/-- **What is written for a property is its pieces.** -/
theorem propertySteps_eq (targetType : String) (p : PropertyDescriptor) :
    propertySteps targetType p = unmarkedPropertySteps targetType p := by
  have hheader : unmarked (propertyHeader p)
      = declaration (propertyModifiers p) p.typeName (Identifier.escaped p.name) := by
    simp [propertyHeader, declaration, String.append_assoc]
  rw [unmarkedPropertySteps, hheader, map_line_unmarked, map_line_unmarked,
    map_unmarked_getterPieces, map_unmarked_setterPieces]
  rfl

/-! ## Methods -/

def methodHeader (m : MethodDescriptor) : List Piece :=
  signaturePieces ("public " ++ modifierKeywords m.modifiers ++ refKeywords m.modifiers
      ++ m.returnType ++ " ")
    (.declares .member (Identifier.escaped m.name)) m.typeParameters
    (m.parameters.map parameterPieces)

/-- The argument that stands for the subject of a method. Where a parameter has the field's name, the
    field is selected. -/
def methodReceiverPieces (m : MethodDescriptor) : List Piece :=
  if m.modifiers.isStatic then [.plain staticTarget]
  else if m.parameters.any (·.name == backingField) then
    [.plain "this.", .selects .field backingField]
  else [.uses .field backingField]

def methodCall (m : MethodDescriptor) : List Piece :=
  callPieces (methodHand m) ("Call" ++ m.name) m.typeParameters
    (methodReceiverPieces m :: m.parameters.map argumentPieces)

def methodAccessorPieces (targetType : String) (m : MethodDescriptor) : List Piece :=
  signaturePieces ("extern static " ++ refKeywords m.modifiers ++ m.returnType ++ " ")
    (.declares .accessor ("Call" ++ m.name)) m.typeParameters
    (receiverPieces targetType (receiverName m.parameters) :: m.parameters.map parameterPieces)

def methodBody (targetType : String) (m : MethodDescriptor) : List (List Piece) :=
  bodyPieces (methodForwarding targetType m) (methodCall m) (methodAccessorPieces targetType m)

/-- All of a method's pieces. -/
def methodPieces (targetType : String) (m : MethodDescriptor) : List Piece :=
  methodHeader m ++ (methodBody targetType m).flatten

theorem unmarked_methodReceiverPieces (m : MethodDescriptor) :
    unmarked (methodReceiverPieces m) = methodReceiver m := by
  unfold methodReceiverPieces methodReceiver
  split
  · simp
  · split <;> simp

/-- The pieces of a method's accessor are its declaration. -/
theorem unmarked_methodAccessorPieces (targetType : String) (m : MethodDescriptor) :
    unmarked (methodAccessorPieces targetType m)
      = "extern static " ++ (methodAccessor targetType m).text := by
  simp [methodAccessorPieces, unmarked_signaturePieces, receiverPieces, Signature.text_eq,
    methodAccessor, methodSignature, Function.comp_def, String.append_assoc]

theorem map_unmarked_methodBody (targetType : String) (m : MethodDescriptor) :
    (methodBody targetType m).map unmarked = (methodForwarding targetType m).lines := by
  refine map_unmarked_bodyPieces ?_ (unmarked_methodAccessorPieces targetType m)
  simp [methodCall, unmarked_callPieces, unmarked_methodReceiverPieces, Forwarding.call_eq,
    methodForwarding, methodAccessor, methodSignature, Function.comp_def]

/-- The lines of a method without their marks, as they are laid out. -/
def unmarkedMethodSteps (targetType : String) (m : MethodDescriptor) : List Step :=
  [.line (unmarked (methodHeader m)),
    .block ((methodBody targetType m).map (.line <| unmarked ·))]

/-- **What is written for a method is its pieces.** -/
theorem methodSteps_eq (targetType : String) (m : MethodDescriptor) :
    methodSteps targetType m = unmarkedMethodSteps targetType m := by
  have hheader : unmarked (methodHeader m)
      = "public " ++ modifierKeywords m.modifiers ++ (methodSignature m).text := by
    simp [methodHeader, unmarked_signaturePieces, Signature.text_eq, methodSignature,
      Function.comp_def, String.append_assoc]
  rw [unmarkedMethodSteps, hheader, map_line_unmarked, map_unmarked_methodBody]
  rfl

end Companion.Source
