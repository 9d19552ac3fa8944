import Companion.Proofs.Naming
import Companion.Proofs.Source.Guards
import Companion.Proofs.Source.Scopes
import Companion.Proofs.Visibility

/-!
# Names of a companion's members

A companion declares what it was forwarded to beside what it needs itself: a field, a guard and, as a
type of its own, its name (`ownNames`). The members keep the names that they have on the subject, so
the names that a companion declares for them are known (`memberNames_model`): those of the eligible
properties, each once, and those of the eligible methods.

> **Properties never have one name, and a member has one of the companion's own names exactly if an
> eligible member of the subject has it** (`member_names`).

Nothing keeps the subject from having such a member. Then the companion declares two things of one
name, or a member that is named like the type it belongs to (`member_names_clash`).
-/

namespace Companion

open Identifier (denoted denoted_of_isValid)
open Source (backingField ended guardName linesOfAll unmarkedMethodSteps unmarkedPropertySteps)

/-! ## Names that a companion declares -/

namespace Source.Proxy

variable (p : Proxy)

/-- The declarations of the members. -/
def headers : List (List Piece) :=
  p.properties.map propertyHeader ++ p.methods.map methodHeader

/-- What the members are named, in the order in which they are declared. -/
def memberNames : List String :=
  ((p.headers.flatMap declarations).filter (·.2 = .member)).map (·.1)

/-- What a companion is named, and what it names for its own use. -/
def ownNames : List String :=
  [backingField, guardName, p.name]

/-- The members of an instance companion come behind what it holds its subject by. -/
theorem text_members (h : p.modifiers.isStatic = false) :
    p.text = String.ofList (ended (p.enclosed fun level =>
      p.holder level
        ++ p.properties.flatMap (fun d => linesOfAll level (unmarkedPropertySteps p.targetType d) ++ [[]])
        ++ p.methods.flatMap (fun d => linesOfAll level (unmarkedMethodSteps p.targetType d) ++ [[]])
        ++ linesOfAll level p.conversionSteps)) := by
  rw [text_eq_ended, linesOfAll_steps]
  simp only [linesOfAll_inside, h, Bool.false_eq_true, if_false, propertySteps_eq, methodSteps_eq]

/-- The names are spelled without regard to keywords. -/
theorem memberNames_eq :
    p.memberNames = p.properties.map (fun d => denoted d.name)
      ++ p.methods.map fun m => denoted m.name := by
  have hproperty : ∀ d, (declarations (propertyHeader d)).filter (·.2 = .member)
      = [(denoted d.name, .member)] := fun d => by
    simp [propertyHeader, Identifier.denoted_escaped]
  have hmethod : ∀ m, (declarations (methodHeader m)).filter (·.2 = .member)
      = [(denoted m.name, .member)] := fun m => by
    rw [methodHeader, declarations_signaturePieces, flatMap_declarations_parameters]
    simp [List.filter_map, Function.comp_def, Identifier.denoted_escaped]
  rw [memberNames, headers, List.flatMap_append, List.filter_append, List.map_append]
  simp only [List.filter_flatMap, List.flatMap_map, hproperty, hmethod, ← List.map_eq_flatMap,
    List.map_map]
  rfl

end Source.Proxy

/-! ## Names that come from the subject -/

namespace SubjectDecl

variable {s : SubjectDecl} {o : Options} {source : GeneratedSource}

theorem isStatic_of_generate (h : s.model.generate o = .source source) : s.isStatic = false := by
  have hfate : s.fate = .sourced := by rw [← s.fate_generate o, h, Outcome.fate]
  by_contra hstatic
  rw [Bool.not_eq_false] at hstatic
  rw [fate, if_pos hstatic] at hfate
  cases hfate

/-- What is generated is the source of the subject's model. -/
theorem eq_source_of_generate (h : s.model.generate o = .source source) :
    source = s.model.source o := by
  have hfate : s.fate = .sourced := by rw [← s.fate_generate o, h, Outcome.fate]
  rw [generate_of_sourced hfate] at h
  exact (Outcome.source.inj h).symm

theorem denoted_name {d : PropertyDescriptor} (hd : d ∈ s.model.properties) :
    denoted d.name = d.name := by
  obtain ⟨first, hfirst, -⟩ := exists_first_of_mem hd
  obtain ⟨-, heligible, hname⟩ := mem_occurrences.mp (List.mem_of_head? hfirst)
  rw [← hname]
  exact denoted_of_isValid (first.isEligible_iff.mp heligible).1

/-- **The names of the members are those of the eligible declarations**: of properties each name once,
    where it first occurs, and of methods each as often as it is declared. -/
theorem memberNames_model (h : s.isStatic = false) :
    (s.model.proxy o).memberNames
      = ((s.properties.filter PropertyDecl.isEligible).map (·.name)).eraseDups
        ++ (s.methods.filter MethodDecl.isEligible).map (·.name) := by
  have hproperties : s.model.properties.map (fun d => denoted d.name)
      = ((s.properties.filter PropertyDecl.isEligible).map (·.name)).eraseDups := by
    rw [← map_name_properties h]
    exact List.map_congr_left fun d hd => denoted_name hd
  have hmethods : s.model.methods.map (fun m => denoted m.name)
      = (s.methods.filter MethodDecl.isEligible).map (·.name) := by
    rw [methods_model h, List.map_map]
    refine List.map_congr_left fun m hm => ?_
    exact denoted_of_isValid (m.isEligible_iff.mp (List.mem_filter.mp hm).2).2.1
  rw [Source.Proxy.memberNames_eq, ← hproperties, ← hmethods]
  rfl

theorem mem_memberNames (h : s.isStatic = false) {n : String} :
    n ∈ (s.model.proxy o).memberNames
      ↔ (∃ d ∈ s.properties, d.isEligible = true ∧ d.name = n)
        ∨ ∃ m ∈ s.methods, m.isEligible = true ∧ m.name = n := by
  rw [memberNames_model h, List.mem_append, List.mem_eraseDups]
  simp [and_assoc]

theorem isValid_of_mem_memberNames (h : s.isStatic = false) {n : String}
    (hn : n ∈ (s.model.proxy o).memberNames) : Identifier.isValid n = true := by
  obtain ⟨d, -, heligible, rfl⟩ | ⟨m, -, heligible, rfl⟩ := (mem_memberNames h).mp hn
  · exact (d.isEligible_iff.mp heligible).1
  · exact (m.isEligible_iff.mp heligible).2.1

/-- No two properties are spelled alike. -/
theorem nodup_escaped (s : SubjectDecl) :
    (s.model.properties.map fun d => Identifier.escaped d.name).Nodup := by
  have hnames : (s.model.properties.map fun d => Identifier.escaped d.name).map denoted
      = s.model.properties.map (·.name) := by
    rw [List.map_map]
    refine List.map_congr_left fun d hd => ?_
    exact (Identifier.denoted_escaped d.name).trans (denoted_name hd)
  refine List.Nodup.of_map denoted ?_
  rw [hnames]
  exact nodup_names s

end SubjectDecl

/-- **What a companion's members are named.** Their names are those of the eligible properties, which
    are all different and spelled differently, and of the eligible methods. So none of them is one of
    the companion's own names exactly if no eligible member of the subject has such a name. The
    companion's name is among them only if the subject's is an identifier, or there is none. -/
theorem member_names {config : Option Config} {flag : Bool} {o : Options} {s : SubjectDecl}
    {source : GeneratedSource} (hresolve : Options.resolve config flag = .ok o)
    (hsource : s.model.generate o = .source source) :
    let p := s.model.proxy o
    source.text = String.ofList (ended (p.enclosed fun level =>
        p.holder level
          ++ p.properties.flatMap (fun d =>
            linesOfAll level (unmarkedPropertySteps p.targetType d) ++ [[]])
          ++ p.methods.flatMap (fun m =>
            linesOfAll level (unmarkedMethodSteps p.targetType m) ++ [[]])
          ++ linesOfAll level p.conversionSteps))
      ∧ p.ownNames = [backingField, guardName, s.name ++ o.proxySuffix]
      ∧ p.memberNames = ((s.properties.filter PropertyDecl.isEligible).map (·.name)).eraseDups
        ++ (s.methods.filter MethodDecl.isEligible).map (·.name)
      ∧ (p.properties.map (·.name)).Nodup
      ∧ (p.properties.map fun d => Identifier.escaped d.name).Nodup
      ∧ ((∀ n ∈ p.ownNames, n ∉ p.memberNames)
        ↔ (∀ d ∈ s.properties, d.isEligible = true → d.name ∉ p.ownNames)
          ∧ ∀ m ∈ s.methods, m.isEligible = true → m.name ∉ p.ownNames)
      ∧ (p.name ∈ p.memberNames →
        Identifier.isValid s.name = true ∨ s.name = "" ∧ Identifier.isValid o.proxySuffix = true) := by
  intro p
  have hstatic := SubjectDecl.isStatic_of_generate hsource
  have hnamed := namedAfter_of_generate (isSuffix_of_resolve hresolve) hsource
  refine ⟨?_, ?_, SubjectDecl.memberNames_model hstatic, SubjectDecl.nodup_names s,
    SubjectDecl.nodup_escaped s, ?_, ?_⟩
  · have hinstance : p.modifiers.isStatic = false := by
      show s.model.subject.modifiers.isStatic = false
      rw [s.subject_model]
      exact hstatic
    rw [SubjectDecl.eq_source_of_generate hsource]
    exact p.text_members hinstance
  · rw [Source.Proxy.ownNames, hnamed.companion]
  · constructor
    · intro hnone
      exact ⟨fun d hd heligible hown => hnone d.name hown
          ((SubjectDecl.mem_memberNames hstatic).mpr (.inl ⟨d, hd, heligible, rfl⟩)),
        fun m hm heligible hown => hnone m.name hown
          ((SubjectDecl.mem_memberNames hstatic).mpr (.inr ⟨m, hm, heligible, rfl⟩))⟩
    · rintro ⟨hproperties, hmethods⟩ n hown hn
      obtain ⟨d, hd, heligible, rfl⟩ | ⟨m, hm, heligible, rfl⟩ :=
        (SubjectDecl.mem_memberNames hstatic).mp hn
      · exact hproperties d hd heligible hown
      · exact hmethods m hm heligible hown
  · exact fun hmem => hnamed.isValid_iff.mp (SubjectDecl.isValid_of_mem_memberNames hstatic hmem)

/-- The members of the ledger's companion are named like none of what it needs itself. -/
theorem member_names_ledger :
    let p := SubjectDecl.ledger.model.proxy {}
    Options.resolve none false = .ok {}
      ∧ SubjectDecl.ledger.model.generate {} = .source (SubjectDecl.ledger.model.source {})
      ∧ p.memberNames = ["Balance", "Owner", "Close", "Close"]
      ∧ p.ownNames = ["_target", "ThrowInvalidOperationIfNotInitialized", "LedgerProxy"]
      ∧ (∀ n ∈ p.ownNames, n ∉ p.memberNames)
      ∧ (p.properties.map (·.name)).Nodup := by
  intro p
  have hsource := SubjectDecl.generate_of_sourced (s := SubjectDecl.ledger) rfl {}
  obtain ⟨-, hown, hnames, hnodup, -, hclash, -⟩ := member_names resolve_default hsource
  have hmembers : p.memberNames = ["Balance", "Owner", "Close", "Close"] := by
    rw [hnames]
    decide +kernel
  refine ⟨resolve_default, hsource, hmembers, hown, hclash.mpr ⟨?_, ?_⟩, hnodup⟩
  · rw [hown]
    decide +kernel
  · rw [hown]
    decide +kernel

/-- A class with a property that is named like the field, a method like the guard, and a property like
    the companion. A source is generated for it in which all three are declared. -/
theorem member_names_clash :
    let s : SubjectDecl :=
      { name := "X"
        reference := "global::X"
        members :=
          [.property { name := "_target", type := .named "int" },
            .method { name := "ThrowInvalidOperationIfNotInitialized" },
            .property { name := "XProxy", type := .named "int" }] }
    Options.resolve none false = .ok {}
      ∧ s.model.generate {} = .source (s.model.source {})
      ∧ (s.model.proxy {}).ownNames
        = ["_target", "ThrowInvalidOperationIfNotInitialized", "XProxy"]
      ∧ (s.model.proxy {}).memberNames
        = ["_target", "XProxy", "ThrowInvalidOperationIfNotInitialized"] := by
  intro s
  refine ⟨resolve_default, SubjectDecl.generate_of_sourced rfl {}, ?_, ?_⟩ <;> decide +kernel

end Companion
