import Companion.Proofs.Extraction
import Companion.Proofs.FirstSeen
import Companion.Proofs.Overrides

/-!
# The members of a model

A model lists a described property for each name, although a name may be declared again and again,
among members of every other kind. This file says what the list is in terms of the declarations
alone: which names it has and in which order (`map_name_properties`), and what stands under a name
(`exists_first_of_mem`). Methods have no such rule, since overloads are different methods: each
eligible one has a description of its own, which holds all of it that is ever written
(`MethodDecl.DescribedBy`).

**The list is filled in place, and the specification is about all occurrences of a name at once.** The
two meet in what is *found* under a name (`findProperty?_model`); that every entry is found under its
own name is all that is missing, and it follows from the names being distinct.
-/

namespace Companion

/-! ## Described methods -/

structure ParameterDecl.DescribedBy (p : ParameterDecl) (d : ParameterDescriptor) : Prop where
  name : d.name = p.name
  type : d.typeName = p.type.display
  passing : d.passing = p.passing

structure TypeParameterDecl.DescribedBy (p : TypeParameterDecl) (d : TypeParameterDescriptor) :
    Prop where
  name : d.name = p.name
  constraints : d.constraints = p.constraints.map fun t => t.display

/-- The description says of the method what a signature says, with types by their spelling. -/
structure MethodDecl.DescribedBy (m : MethodDecl) (d : MethodDescriptor) : Prop where
  name : d.name = m.name
  returnType : d.returnType = m.returnType.display
  parameters : List.Forall₂ ParameterDecl.DescribedBy m.parameters d.parameters
  typeParameters : List.Forall₂ TypeParameterDecl.DescribedBy m.typeParameters d.typeParameters
  isStatic : d.modifiers.isStatic = m.isStatic
  isUnsafe : d.modifiers.isUnsafe = true
    ↔ m.returnType.containsPointer = true ∨ ∃ p ∈ m.parameters, p.type.containsPointer = true
  isRef : d.modifiers.isRef = true ↔ m.returnsBy = .byRef
  isRefReadOnly : d.modifiers.isRefReadOnly = true ↔ m.returnsBy = .byRefReadOnly
  isOverride : d.modifiers.isOverride = true
    ↔ m.isStatic = false ∧ m.typeParameters = [] ∧ m.RepeatsInherited
  /-- The other modifiers are those of properties and of types. -/
  others : d.modifiers.isReadOnly = false ∧ d.modifiers.isRefStruct = false
    ∧ d.modifiers.isPartial = false

theorem MethodDecl.describedBy_describe (m : MethodDecl) : m.DescribedBy m.describe where
  name := rfl
  returnType := rfl
  parameters := List.forall₂_map_right_iff.mpr (List.forall₂_same.mpr fun _ _ => ⟨rfl, rfl, rfl⟩)
  typeParameters := List.forall₂_map_right_iff.mpr (List.forall₂_same.mpr fun _ _ => ⟨rfl, rfl⟩)
  isStatic := rfl
  isUnsafe := by simp [describe, signature]
  isRef := by simp [describe, signature]
  isRefReadOnly := by simp [describe, signature]
  isOverride := m.isInherited_signature_iff
  others := ⟨rfl, rfl, rfl⟩

/-! ## The list of properties -/

theorem map_name_addProperty (ps : List PropertyDescriptor) (d : PropertyDescriptor) :
    (addProperty ps d).map (·.name)
      = ps.map (·.name) ++ if d.name ∈ ps.map (·.name) then [] else [d.name] := by
  have hknown : ps.any (·.name == d.name) = true ↔ d.name ∈ ps.map (·.name) := by simp
  unfold addProperty
  by_cases h : d.name ∈ ps.map (·.name)
  · -- Meeting another description keeps the name.
    have hkeep : ∀ q : PropertyDescriptor,
        (if q.name == d.name then q.meet d else q).name = q.name := by
      intro q
      split <;> rfl
    rw [if_pos (hknown.mpr h), if_pos h, List.append_nil, List.map_map]
    exact List.map_congr_left fun q _ => hkeep q
  · rw [if_neg (mt hknown.mp h), if_neg h, List.map_append, List.map_singleton]

namespace SubjectDecl

variable {s : SubjectDecl}

theorem members_of_static (h : s.isStatic = true) :
    s.model.properties = [] ∧ s.model.methods = [] := by
  rw [model, if_pos h]
  exact ⟨rfl, rfl⟩

/-- The names are those of the eligible properties, in the order in which they first occur. -/
theorem map_name_properties (h : s.isStatic = false) :
    s.model.properties.map (·.name)
      = ((s.properties.filter PropertyDecl.isEligible).map (·.name)).eraseDups := by
  have hmodel : s.model.properties = describeProperties s.properties := by simp [model, h]
  have hnames : (describeProperties s.properties).map (·.name)
      = (((s.properties.filter PropertyDecl.isEligible).map PropertyDecl.describe).map
          (·.name)).eraseDups :=
    keys_foldl (List.map PropertyDescriptor.name) rfl map_name_addProperty _
  rw [hmodel, hnames, List.map_map]
  rfl

theorem nodup_names (s : SubjectDecl) : (s.model.properties.map (·.name)).Nodup := by
  cases h : s.isStatic with
  | true =>
    rw [(members_of_static h).1]
    exact .nil
  | false =>
    rw [map_name_properties h]
    exact nodup_eraseDups _

/-- A described property is the first occurrence of its name, read-only if all occurrences are. -/
theorem exists_first_of_mem {d : PropertyDescriptor} (hd : d ∈ s.model.properties) :
    ∃ first, (s.occurrences d.name).head? = some first
      ∧ d.typeName = first.type.display
      ∧ d.modifiers =
        { isStatic := first.isStatic
          isUnsafe := first.type.containsPointer
          isReadOnly := (s.occurrences d.name).all (·.isReadOnly) } := by
  have hfound : s.model.findProperty? d.name = some d := find?_key_eq_some (nodup_names s) hd
  rw [findProperty?_model] at hfound
  split at hfound
  · exact absurd hfound (by simp)
  · cases hoccurrences : s.occurrences d.name with
    | nil =>
      rw [hoccurrences] at hfound
      exact absurd hfound (by simp [sumUp?])
    | cons first rest =>
      rw [hoccurrences, sumUp?_describe] at hfound
      have hd := Option.some.inj hfound
      exact ⟨first, rfl, (congrArg (·.typeName) hd).symm, (congrArg (·.modifiers) hd).symm⟩

theorem methods_model (h : s.isStatic = false) :
    s.model.methods = (s.methods.filter MethodDecl.isEligible).map MethodDecl.describe := by
  simp [model, h, describeMethods]

theorem exists_of_mem_methods {d : MethodDescriptor} (hd : d ∈ s.model.methods) :
    ∃ m ∈ s.methods, m.isEligible = true ∧ d = m.describe := by
  cases h : s.isStatic with
  | true =>
    rw [(members_of_static h).2] at hd
    exact absurd hd (List.not_mem_nil)
  | false =>
    rw [methods_model h] at hd
    obtain ⟨m, hm, rfl⟩ := List.mem_map.mp hd
    obtain ⟨hmem, heligible⟩ := List.mem_filter.mp hm
    exact ⟨m, hmem, heligible, rfl⟩

/-- Each eligible method is described once, and the descriptions are in declaration order. -/
theorem forall₂_methods_model (h : s.isStatic = false) :
    List.Forall₂ MethodDecl.DescribedBy (s.methods.filter MethodDecl.isEligible)
      s.model.methods := by
  rw [methods_model h, List.forall₂_map_right_iff]
  exact List.forall₂_same.mpr fun m _ => m.describedBy_describe

/-- **What a model lists of a subject's members**, however they are mixed. A static subject has none
    listed. Of any other the properties are listed once for each eligible name, in the order in which
    the names first occur, and the methods one by one, each with its whole signature. A listed property
    is what the first occurrence of its name says, read-only if all of them are; so the order of the
    members has no say in that. -/
theorem model_members (s : SubjectDecl) :
    (s.isStatic = true → s.model.properties = [] ∧ s.model.methods = [])
      ∧ (s.isStatic = false →
          s.model.properties.map (·.name)
              = ((s.properties.filter PropertyDecl.isEligible).map (·.name)).eraseDups
            ∧ List.Forall₂ MethodDecl.DescribedBy (s.methods.filter MethodDecl.isEligible)
              s.model.methods)
      ∧ (s.model.properties.map (·.name)).Nodup
      ∧ (∀ d ∈ s.model.properties, ∃ first, (s.occurrences d.name).head? = some first
          ∧ d.typeName = first.type.display
          ∧ d.modifiers =
            { isStatic := first.isStatic
              isUnsafe := first.type.containsPointer
              isReadOnly := (s.occurrences d.name).all (·.isReadOnly) })
      ∧ ∀ members : List MemberDecl, members.Perm s.members → ∀ name,
          (({ s with members } : SubjectDecl).model.findProperty? name).map (·.modifiers.isReadOnly)
            = (s.model.findProperty? name).map (·.modifiers.isReadOnly) := by
  refine ⟨members_of_static, fun h => ⟨map_name_properties h, forall₂_methods_model h⟩,
    nodup_names s, fun d hd => exists_first_of_mem hd, ?_⟩
  intro members hperm name
  have hstatic : ({ s with members } : SubjectDecl).isStatic = s.isStatic := rfl
  exact isReadOnly_findProperty?_perm hstatic hperm name

/-- Closing a ledger at some time, through which the caller learns when that was. -/
def closeWhen : MethodDecl where
  name := "Close"
  parameters := [{ name := "when", type := .pointer (.named "int"), passing := .byOut }]

/-- A ledger that declares its balance three times, hidden at first, then as a number that can only
    be read, and last as a pointer that can be set. It can be closed in two ways. -/
def ledger : SubjectDecl where
  name := "Ledger"
  reference := "global::Bank.Ledger"
  members :=
    [.property hiddenBalance, .method { name := "Close" }, .property visibleBalance,
      .property { name := "Owner", type := .named "string", isStatic := true, isReadOnly := true },
      .other { name := "_balance" },
      .property { name := "Balance", type := .pointer (.named "long") },
      .method closeWhen]

/-- The balance of the ledger is listed as a number, in front of the owner, and can be set. Of the two
    ways to close it the first has no parameter, and the second one that is handed out. -/
theorem model_members_ledger :
    let balance : PropertyDescriptor := { name := "Balance", typeName := "int", modifiers := {} }
    ledger.isStatic = false
      ∧ ledger.model.properties.map (·.name) = ["Balance", "Owner"]
      ∧ (∃ close closing, ledger.model.methods = [close, closing]
          ∧ close.name = "Close" ∧ close.parameters = [] ∧ close.modifiers.isUnsafe = false
          ∧ closing.name = "Close" ∧ closing.returnType = "void"
          ∧ closing.parameters.map (fun p => (p.name, p.typeName, p.passing))
            = [("when", "int*", .byOut)]
          ∧ closing.modifiers.isUnsafe = true)
      ∧ balance ∈ ledger.model.properties
      ∧ (∃ first, (ledger.occurrences "Balance").head? = some first ∧ first.type.display = "int")
      ∧ (({ ledger with members := ledger.members.reverse } : SubjectDecl).model.findProperty?
          "Balance").map (·.modifiers.isReadOnly) = some false
      ∧ ({ ledger with isStatic := true } : SubjectDecl).model.properties = [] := by
  have hbalance : ({ name := "Balance", typeName := "int", modifiers := {} } : PropertyDescriptor)
      ∈ ledger.model.properties := by decide +kernel
  have heligible : ledger.methods.filter MethodDecl.isEligible = [{ name := "Close" }, closeWhen] := by
    rfl
  obtain ⟨-, hlists, -, hentries, horder⟩ := model_members ledger
  obtain ⟨hnames, hmethods⟩ := hlists rfl
  obtain ⟨first, hfirst, htype, -⟩ := hentries _ hbalance
  refine ⟨rfl, hnames.trans (by decide +kernel), ?_, hbalance, ⟨first, hfirst, htype.symm⟩, ?_, ?_⟩
  · rw [heligible] at hmethods
    obtain ⟨close, rest, hclose, hrest, hlist⟩ := List.forall₂_cons_left_iff.mp hmethods
    obtain ⟨closing, others, hclosing, hothers, rfl⟩ := List.forall₂_cons_left_iff.mp hrest
    obtain ⟨time, more, htime, hmore, hparameters⟩ :=
      List.forall₂_cons_left_iff.mp hclosing.parameters
    rw [List.forall₂_nil_left_iff.mp hothers] at hlist
    rw [List.forall₂_nil_left_iff.mp hmore] at hparameters
    refine ⟨close, closing, hlist, hclose.name, List.forall₂_nil_left_iff.mp hclose.parameters, ?_,
      hclosing.name, hclosing.returnType, ?_, hclosing.isUnsafe.mpr (.inr ⟨_, .head _, rfl⟩)⟩
    · refine Bool.eq_false_iff.mpr (mt hclose.isUnsafe.mp ?_)
      rintro (hresult | ⟨p, hp, -⟩)
      · exact absurd hresult (by decide)
      · exact absurd hp List.not_mem_nil
    · rw [hparameters, List.map_singleton, htime.name, htime.type, htime.passing]
      rfl
  · exact (horder _ ledger.members.reverse_perm "Balance").trans (by decide +kernel)
  · exact ((model_members { ledger with isStatic := true }).1 rfl).1

end SubjectDecl

end Companion
