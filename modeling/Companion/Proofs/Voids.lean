import Companion.Declaration.Decode
import Companion.Proofs.Source.Signatures
import Companion.Proofs.Visibility

/-!
# What is `void`

Whether a type is `void` is asked twice. Eligibility asks for its shape, and what is written asks
for its spelling, since descriptions hold nothing else. The two agree on a type exactly if it is
spelled as `void` just in case it is that by its shape (`WellSpelled`), and then what eligibility
keeps out is not written either.

**Nothing makes a declaration well spelled.** A bare text is read as a named type whatever it says,
so `void` is one too, and a type that is `void` by its shape may be spelled in another way. A
property of no type is then forwarded to, and a method that returns nothing hands back its result
(`void_misjudged`). With any spelling there is one more method that does so: it returns `void` by
reference.
-/

namespace Companion

open Source (methodHand methodForwarding methodSteps handsBack_methodHand bodyAt Begins)

/-! ## Spellings of `void` -/

namespace TypeRef

/-- The spelling is `void` for that shape, and for any other shape it is not. -/
def WellSpelled (t : TypeRef) : Prop :=
  match t.shape with
  | .void => t.display = "void"
  | _ => t.display ≠ "void"

theorem wellSpelled_iff (t : TypeRef) : t.WellSpelled ↔ (t.display = "void" ↔ t.isVoid = true) := by
  unfold WellSpelled isVoid
  cases t.shape <;> simp

/-- References as they are built, under names other than `void`. -/
inductive Built : TypeRef → Prop where
  | void : Built .void
  | named {display : String} (h : display ≠ "void") : Built (.named display)
  | pointer (t : TypeRef) : Built t.pointer
  | array (t : TypeRef) : Built t.array
  | typeParameter {name : String} (h : name ≠ "void") (constraints : List TypeRef) :
    Built (.typeParameter name constraints)

/-- A text that ends in another character is not `void`. -/
theorem append_ne_void (text : String) {ending : String} {c : Char}
    (h : ending.toList.getLast? = some c) (hc : c ≠ 'd') : text ++ ending ≠ "void" := by
  intro hvoid
  have hlast : (text ++ ending).toList.getLast? = some 'd' := by
    rw [hvoid]
    rfl
  rw [String.toList_append, List.getLast?_append, h] at hlast
  exact hc (by simpa using hlast)

theorem Built.wellSpelled {t : TypeRef} (h : t.Built) : t.WellSpelled := by
  cases h with
  | void => simp [WellSpelled, TypeRef.void]
  | named h => simpa [WellSpelled, TypeRef.named, isVoid] using h
  | pointer t =>
    have hmark : t.display ++ "*" ≠ "void" := append_ne_void _ rfl (by decide)
    simpa [WellSpelled, TypeRef.pointer, isVoid] using hmark
  | array t =>
    have hmark : t.display ++ "[]" ≠ "void" := append_ne_void _ rfl (by decide)
    simpa [WellSpelled, TypeRef.array, isVoid] using hmark
  | typeParameter h => simpa [WellSpelled, TypeRef.typeParameter, isVoid] using h

/-- Every bare text is read as a name, so that only `void` is not well spelled. -/
theorem wellSpelled_of_text (text : String) :
    ∃ t, decode? (.text text) = some t ∧ (t.WellSpelled ↔ text ≠ "void") := by
  refine ⟨.named text, by rw [decode?], ?_⟩
  simp [WellSpelled, named]

/-- What can be named is not `void`, and is spelled so only by mistake. -/
theorem Nameable.not_void {t : TypeRef} (h : t.Nameable) :
    t.isVoid = false ∧ (t.display = "void" ↔ ¬ t.WellSpelled) := by
  have hvoid : t.isVoid = false := (h t .refl).1
  exact ⟨hvoid, by simp [wellSpelled_iff, hvoid]⟩

end TypeRef

/-! ## Results that are handed back -/

/-- One of the body's lines hands something back. -/
def Source.Returns (body : List String) : Prop :=
  ∃ line ∈ body, "return ".toList <+: line.toList

theorem Source.Begins.not_returns {c : Char} {line : String} (h : Begins c line) (hc : c ≠ 'r') :
    ¬ "return ".toList <+: line.toList := by
  rintro ⟨rest, hrest⟩
  have hfirst : Begins 'r' line := by
    unfold Begins
    rw [← hrest]
    rfl
  exact hc (h.unique hfirst)

/-- A call hands something back if a keyword stands in front of the accessor's name. -/
theorem Source.returns_call (targetType : String) (m : MethodDescriptor) :
    "return ".toList <+: (methodForwarding targetType m).call.toList
      ↔ (methodHand m).keyword ≠ "" := by
  have hcall : ∃ rest, (methodForwarding targetType m).call
      = (methodHand m).keyword ++ ("Call" ++ rest) := by
    rw [Source.call_methodForwarding]
    simp only [Source.Shared.called, String.append_assoc]
    exact ⟨_, rfl⟩
  obtain ⟨rest, hcall⟩ := hcall
  rw [hcall]
  cases methodHand m with
  | nothing => simp [Source.Hand.keyword]
  | value => simp [Source.Hand.keyword]
  | reference => simp [Source.Hand.keyword]

/-- No other line of a body begins like that. -/
theorem Source.returns_methodForwarding (targetType : String) (m : MethodDescriptor) :
    Source.Returns (methodForwarding targetType m).lines ↔ (methodHand m).keyword ≠ "" := by
  have hguards : ∀ line ∈ (methodForwarding targetType m).guards,
      ¬ "return ".toList <+: line.toList := by
    intro line hline
    rw [Source.Forwarding.guards_eq] at hline
    split at hline
    · exact absurd hline List.not_mem_nil
    · obtain rfl := List.mem_singleton.mp hline
      exact Source.begins_guardCall.not_returns (by decide)
  have hbinding : ¬ "return ".toList <+: (methodForwarding targetType m).bindingAttribute.toList := by
    rw [Source.Forwarding.bindingAttribute_eq]
    exact (Source.begins_binding _ _).not_returns (by decide)
  have haccessor : ¬ "return ".toList
      <+: ("extern static " ++ (methodForwarding targetType m).accessor.text ++ ";").toList := by
    have hbegins : Begins 'e' "extern static " := by unfold Begins; decide +kernel
    exact ((hbegins.append _).append _).not_returns (by decide)
  rw [← Source.returns_call targetType m, Source.Returns, Source.Forwarding.lines]
  constructor
  · rintro ⟨line, hline, hreturns⟩
    simp only [List.mem_append, List.mem_cons, List.not_mem_nil, or_false] at hline
    rcases hline with hguard | rfl | rfl | rfl | rfl
    · exact absurd hreturns (hguards line hguard)
    · exact hreturns
    · exact absurd hreturns (by decide)
    · exact absurd hreturns hbinding
    · exact absurd hreturns haccessor
  · intro hreturns
    exact ⟨_, by simp, hreturns⟩

namespace MethodDecl

theorem returnsVoid_describe (m : MethodDecl) :
    m.describe.returnsVoid = true ↔ m.returnType.display = "void" :=
  beq_iff_eq

/-- Nothing is handed back only by a method that returns by value and is spelled like that. -/
theorem keyword_methodHand (m : MethodDecl) :
    (methodHand m.describe).keyword = ""
      ↔ m.returnType.display = "void" ∧ m.returnsBy = .byValue := by
  have hvalue : m.describe.modifiers.returnsByRef = false ↔ m.returnsBy = .byValue := by
    rw [← Bool.not_eq_true, m.returnsByRef_describe, not_not]
  have hback := handsBack_methodHand m.describe
  generalize (methodHand m.describe).keyword = keyword at hback
  cases hback with
  | reference h =>
    have hne : m.returnsBy ≠ .byValue := m.returnsByRef_describe.mp h
    simp [hne]
  | value _ hvoid =>
    have hdisplay : m.returnType.display ≠ "void" := hvoid
    simp [hdisplay]
  | nothing h hvoid => exact ⟨fun _ => ⟨hvoid, hvalue.mp h⟩, fun _ => rfl⟩

end MethodDecl

/-- **Where the two notions of `void` agree.** Whether a method that can be forwarded to returns nothing
    is told from its description, which is right exactly if its return type is well spelled. The body
    that is written for it hands something back unless the return type is spelled as `void` and comes
    by value; so if it is well spelled and comes by value, the body hands something back exactly if
    there is something. The types of parameters and of properties are never `void`, and they are
    spelled so exactly if they are not well spelled. Types are well spelled as they are built, and as
    they are read from any bare text but `void`. -/
theorem void_judged (m : MethodDecl) (p : PropertyDecl) (hm : m.isEligible = true)
    (hp : p.isEligible = true) :
    (m.describe.returnsVoid = m.returnType.isVoid ↔ m.returnType.WellSpelled)
      ∧ (∀ (w : Source.Writer) (targetType : String), ∃ header body,
        w.run? (methodSteps targetType m.describe)
            = some ((w.line header).put (bodyAt w.level body))
          ∧ (Source.Returns body ↔ ¬ (m.returnType.display = "void" ∧ m.returnsBy = .byValue))
          ∧ (m.returnType.WellSpelled → m.returnsBy = .byValue →
            (Source.Returns body ↔ m.returnType.isVoid = false)))
      ∧ (∀ q ∈ m.parameters,
        q.type.isVoid = false ∧ (q.type.display = "void" ↔ ¬ q.type.WellSpelled))
      ∧ (p.type.isVoid = false ∧ (p.type.display = "void" ↔ ¬ p.type.WellSpelled))
      ∧ (∀ t : TypeRef, t.Built → t.WellSpelled)
      ∧ ∀ text, ∃ t, TypeRef.decode? (.text text) = some t ∧ (t.WellSpelled ↔ text ≠ "void") := by
  obtain ⟨-, -, hparts⟩ := m.isEligible_iff.mp hm
  refine ⟨?_, fun w targetType => ?_, fun q hq => (hparts.parameters q hq).not_void,
    (p.isEligible_iff.mp hp).2.not_void, fun t ht => ht.wellSpelled, TypeRef.wellSpelled_of_text⟩
  · rw [Bool.eq_iff_iff, m.returnsVoid_describe, TypeRef.wellSpelled_iff]
  · have hreturns : Source.Returns (methodForwarding targetType m.describe).lines
        ↔ ¬ (m.returnType.display = "void" ∧ m.returnsBy = .byValue) := by
      rw [Source.returns_methodForwarding, ne_eq, m.keyword_methodHand]
    refine ⟨_, _, w.run?_methodSteps targetType m.describe, hreturns, fun hspelled hvalue => ?_⟩
    rw [hreturns, (TypeRef.wellSpelled_iff _).mp hspelled]
    simp [hvalue]

/-- A method that returns nothing has a body that hands nothing back. -/
theorem void_judged_close :
    let close : MethodDecl :=
      { name := "Close", parameters := [{ name := "when", type := .named "int" }] }
    let size : PropertyDecl := { name := "Size", type := .named "int" }
    close.isEligible = true ∧ size.isEligible = true ∧ close.returnType.WellSpelled
      ∧ close.describe.returnsVoid = close.returnType.isVoid
      ∧ (∃ header body, ({} : Source.Writer).run? (methodSteps "Desk" close.describe)
          = some ((({} : Source.Writer).line header).put (bodyAt 0 body))
        ∧ ¬ Source.Returns body)
      ∧ (∀ q ∈ close.parameters, q.type.isVoid = false)
      ∧ size.type.isVoid = false := by
  intro close size
  have hclose : close.isEligible = true := by decide +kernel
  have hsize : size.isEligible = true := by decide +kernel
  obtain ⟨hresult, hwritten, hparameters, ⟨hproperty, -⟩, hbuilt, -⟩ :=
    void_judged close size hclose hsize
  have hspelled : close.returnType.WellSpelled := hbuilt _ .void
  obtain ⟨header, body, hrun, -, hreturns⟩ := hwritten {} "Desk"
  refine ⟨hclose, hsize, hspelled, hresult.mpr hspelled, ⟨header, body, hrun, ?_⟩,
    fun q hq => (hparameters q hq).1, hproperty⟩
  rw [hreturns hspelled rfl]
  decide

/-- A type that is `void` by its shape but spelled by its name in the system's namespace. -/
def systemVoid : TypeRef where
  display := "System.Void"
  accessibility := .notApplicable
  shape := .void

/-- A bare `void` is read as a named type. A property of it is forwarded to, and a method that
    returns it is taken to return nothing. A method that does return nothing hands back its result
    if `void` is spelled in another way, or comes by reference. -/
theorem void_misjudged :
    let bare : TypeRef := .named "void"
    let nothingHeld : PropertyDecl := { name := "Nothing", type := bare }
    let run : MethodDecl := { name := "Run", returnType := bare }
    let stop : MethodDecl := { name := "Stop", returnType := systemVoid }
    let skip : MethodDecl := { name := "Skip", returnsBy := .byRef }
    TypeRef.decode? (.text "void") = some bare
      ∧ (nothingHeld.isEligible = true ∧ nothingHeld.type.display = "void")
      ∧ (run.isEligible = true ∧ run.describe.returnsVoid = true ∧ run.returnType.isVoid = false)
      ∧ (stop.isEligible = true ∧ stop.returnType.isVoid = true
        ∧ stop.describe.returnsVoid = false ∧ (methodHand stop.describe).keyword = "return ")
      ∧ skip.isEligible = true ∧ skip.returnType.isVoid = true
      ∧ (methodHand skip.describe).keyword = "return ref " := by
  refine ⟨by rw [TypeRef.decode?], ?_, ?_, ?_, ?_⟩ <;> decide +kernel

end Companion
