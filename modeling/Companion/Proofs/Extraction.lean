import Companion.Generate
import Mathlib.Data.List.Induction

/-!
# What extraction takes from a subject

Generation sees a subject through its model, and a model is made of little: the fields of the subject
itself, and the eligible ones of its members. This file says what that comes to:

* what becomes of a subject is decided by two of its fields (`Fate`, `fate_generate`);
* a described property is what the eligible declarations of its name sum up to, whatever else stands
  between them (`findProperty?_model`);
* **members that are not forwarded leave no trace**: subjects that agree once those are deleted have
  one model, and the same is generated for both (`generate_of_forwarded_eq`).

Eligibility is judged before declarations of one name meet. That is what keeps a hidden declaration
from changing a visible one, and it is the one place in which the order of the two matters.
-/

namespace Companion

/-! ## What becomes of a subject -/

/-- What becomes of a subject: a source is generated for it, it is reported, or it is passed over. -/
inductive Fate where
  | sourced
  | reported
  | passedOver
  deriving DecidableEq, Repr

/-- A static subject is reported, whatever it is. Of the others, classes and records get a source. -/
def SubjectDecl.fate (s : SubjectDecl) : Fate :=
  if s.isStatic then .reported
  else if s.kind = .classType ∨ s.kind = .recordType then .sourced
  else .passedOver

def Outcome.fate : Outcome → Fate
  | .source _ => .sourced
  | .diagnostic _ => .reported
  | .skipped _ _ => .passedOver

namespace SubjectDecl

theorem subject_model (s : SubjectDecl) : s.model.subject = s.describe := by
  unfold model
  split <;> rfl

theorem generate_of_reported {s : SubjectDecl} (h : s.fate = .reported) (o : Options) :
    s.model.generate o = .diagnostic (.unsupportedStaticType s.describe) := by
  have hstatic : s.isStatic = true := by
    by_contra hstatic
    rw [fate, if_neg hstatic] at h
    split at h <;> cases h
  have hunsupported : s.model.isSupported = false := by
    rw [SubjectModel.isSupported, subject_model]
    simp [describe, hstatic]
  rw [SubjectModel.generate, hunsupported, subject_model]
  rfl

theorem isSupported_of_not_reported {s : SubjectDecl} (h : s.fate ≠ .reported) :
    s.model.isSupported = true := by
  have hstatic : s.isStatic = false := by
    by_contra hstatic
    exact h (by simp [fate, hstatic])
  rw [SubjectModel.isSupported, subject_model]
  simp [describe, hstatic]

theorem isEmitted_model (s : SubjectDecl) : s.model.isEmitted = s.kind.isClassLike := by
  rw [SubjectModel.isEmitted, subject_model]
  rfl

theorem generate_of_sourced {s : SubjectDecl} (h : s.fate = .sourced) (o : Options) :
    s.model.generate o = .source (s.model.source o) := by
  have hsupported := isSupported_of_not_reported (s := s) (by simp [h])
  have hemitted : s.model.isEmitted = true := by
    rw [isEmitted_model, DeclarationKind.isClassLike_iff]
    by_contra hkind
    rw [fate, if_neg hkind] at h
    split at h <;> cases h
  simp [SubjectModel.generate, hsupported, hemitted]

theorem generate_of_passedOver {s : SubjectDecl} (h : s.fate = .passedOver) (o : Options) :
    s.model.generate o = .skipped s.reference s.kind := by
  have hsupported := isSupported_of_not_reported (s := s) (by simp [h])
  have hkept : s.model.isEmitted = false := by
    rw [isEmitted_model, Bool.eq_false_iff, ne_eq, DeclarationKind.isClassLike_iff]
    intro hkind
    rw [fate, if_pos hkind] at h
    split at h <;> cases h
  simp [SubjectModel.generate, hsupported, hkept, subject_model, describe]

/-- What is generated for a subject is of the kind that its fate says, under any options. -/
theorem fate_generate (s : SubjectDecl) (o : Options) : (s.model.generate o).fate = s.fate := by
  cases h : s.fate with
  | sourced => rw [generate_of_sourced h, Outcome.fate]
  | reported => rw [generate_of_reported h, Outcome.fate]
  | passedOver => rw [generate_of_passedOver h, Outcome.fate]

end SubjectDecl

/-! ## Properties of one name -/

/-- What descriptions of one name sum up to: the first of them, read-only if all of them are. -/
def sumUp? (ds : List PropertyDescriptor) : Option PropertyDescriptor :=
  ds.head?.map fun first =>
    { first with modifiers :=
      { first.modifiers with isReadOnly := ds.all (·.modifiers.isReadOnly) } }

theorem sumUp?_singleton (d : PropertyDescriptor) : sumUp? [d] = some d := by
  simp [sumUp?]

/-- One more description meets what the others sum up to. -/
theorem sumUp?_append {ds : List PropertyDescriptor} {sum : PropertyDescriptor}
    (h : sumUp? ds = some sum) (d : PropertyDescriptor) :
    sumUp? (ds ++ [d]) = some (sum.meet d) := by
  cases ds with
  | nil => exact absurd h (by simp [sumUp?])
  | cons first rest =>
    obtain rfl := Option.some.inj h
    simp [sumUp?, PropertyDescriptor.meet, Bool.and_assoc]

/-- Described properties sum up to the first one, read-only if all of them are. -/
theorem sumUp?_describe (first : PropertyDecl) (rest : List PropertyDecl) :
    sumUp? ((first :: rest).map PropertyDecl.describe)
      = some { first.describe with
          modifiers :=
            { first.describe.modifiers with
              isReadOnly := (first :: rest).all (·.isReadOnly) } } := by
  simp [sumUp?, PropertyDecl.describe, List.all_map, Function.comp_def]

/-- What is found under a name when a description comes in: the new one met, if it has the name. -/
theorem find?_addProperty (ps : List PropertyDescriptor) (d : PropertyDescriptor) (name : String) :
    (addProperty ps d).find? (·.name == name)
      = if d.name = name then
          some (((ps.find? (·.name == name)).map (·.meet d)).getD d)
        else ps.find? (·.name == name) := by
  unfold addProperty
  by_cases hknown : ps.any (·.name == d.name) = true
  -- A list in which the name is known keeps its names, so that the same place is found.
  · have hfind : ∀ n, (ps.map fun q => if q.name == d.name then q.meet d else q).find? (·.name == n)
        = (ps.find? (·.name == n)).map fun q => if q.name == d.name then q.meet d else q := by
      intro n
      rw [List.find?_map]
      congr 2
      funext q
      show ((if q.name == d.name then q.meet d else q).name == n) = _
      split <;> rfl
    rw [if_pos hknown, hfind]
    obtain ⟨p, hp, hpname⟩ := List.any_eq_true.mp hknown
    by_cases hname : d.name = name
    · subst hname
      have hsome : (ps.find? (·.name == d.name)).isSome := by
        rw [List.find?_isSome]
        exact ⟨p, hp, hpname⟩
      obtain ⟨q, hq⟩ := Option.isSome_iff_exists.mp hsome
      have hqname : q.name = d.name := by simpa using List.find?_some hq
      simp [hq, hqname]
    · rw [if_neg hname]
      cases hq : ps.find? (·.name == name) with
      | none => rfl
      | some q =>
        have hqname : q.name = name := by simpa using List.find?_some hq
        simp [hqname, Ne.symm hname]
  · rw [if_neg hknown, List.find?_append, List.find?_singleton]
    by_cases hname : d.name = name
    · subst hname
      have hnone : ps.find? (·.name == d.name) = none := by
        simpa using hknown
      simp [hnone]
    · simp [hname]

/-- Descriptions that are added one after another sum up, each under its own name. -/
theorem find?_foldl_addProperty (ds : List PropertyDescriptor) (name : String) :
    (ds.foldl addProperty []).find? (·.name == name) = sumUp? (ds.filter (·.name == name)) := by
  induction ds using List.reverseRecOn with
  | nil => rfl
  | append_singleton ds d ih =>
    rw [List.foldl_append, List.foldl_cons, List.foldl_nil, find?_addProperty, ih,
      List.filter_append]
    by_cases hname : d.name = name
    · rw [if_pos hname, List.filter_cons_of_pos (by simpa using hname), List.filter_nil]
      cases hsum : sumUp? (ds.filter (·.name == name)) with
      | none =>
        have hnil : ds.filter (·.name == name) = [] := by
          simpa [sumUp?] using hsum
        rw [hnil, List.nil_append, sumUp?_singleton]
        rfl
      | some sum => rw [sumUp?_append hsum, Option.map_some, Option.getD_some]
    · rw [if_neg hname, List.filter_cons_of_neg (by simpa using hname), List.filter_nil,
        List.append_nil]

namespace SubjectDecl

/-- The eligible properties of a name, in the order in which they are declared. -/
def occurrences (s : SubjectDecl) (name : String) : List PropertyDecl :=
  s.properties.filter fun p => p.isEligible && p.name == name

theorem mem_occurrences {s : SubjectDecl} {name : String} {p : PropertyDecl} :
    p ∈ s.occurrences name ↔ p ∈ s.properties ∧ p.isEligible = true ∧ p.name = name := by
  simp [occurrences]

/-- A described property sums up the occurrences of its name. A static subject has none. -/
theorem findProperty?_model (s : SubjectDecl) (name : String) :
    s.model.findProperty? name
      = if s.isStatic then none else sumUp? ((s.occurrences name).map PropertyDecl.describe) := by
  unfold model SubjectModel.findProperty?
  split
  · rfl
  · show (describeProperties s.properties).find? (·.name == name) = _
    rw [describeProperties, find?_foldl_addProperty, List.filter_map, occurrences,
      List.filter_filter]
    congr 3
    funext p
    exact Bool.and_comm _ _

/-- The flag of a described property says what all its occurrences say. -/
theorem isReadOnly_findProperty? (s : SubjectDecl) (name : String) :
    (s.model.findProperty? name).map (·.modifiers.isReadOnly)
      = if s.isStatic ∨ s.occurrences name = [] then none
        else some ((s.occurrences name).all (·.isReadOnly)) := by
  rw [findProperty?_model]
  cases s.isStatic with
  | true => rfl
  | false =>
    cases h : s.occurrences name with
    | nil => simp [sumUp?]
    | cons first rest =>
      rw [sumUp?_describe]
      simp

theorem occurrences_perm {s s' : SubjectDecl} (h : s.members.Perm s'.members) (name : String) :
    (s.occurrences name).Perm (s'.occurrences name) :=
  (h.filterMap _).filter _

/-- The order in which members are declared has no say in whether a property is read-only. -/
theorem isReadOnly_findProperty?_perm {s s' : SubjectDecl} (hstatic : s.isStatic = s'.isStatic)
    (hmembers : s.members.Perm s'.members) (name : String) :
    (s.model.findProperty? name).map (·.modifiers.isReadOnly)
      = (s'.model.findProperty? name).map (·.modifiers.isReadOnly) := by
  have hperm := occurrences_perm hmembers name
  have hnil : s.occurrences name = [] ↔ s'.occurrences name = [] :=
    ⟨fun he => (he ▸ hperm).nil_eq.symm, fun he => (he ▸ hperm).eq_nil⟩
  rw [isReadOnly_findProperty?, isReadOnly_findProperty?, hstatic, hperm.all_eq]
  simp only [hnil]

end SubjectDecl

/-! ## Members that are not forwarded -/

/-- The property without what generation does not look at: its accessibility and its place. -/
def PropertyDecl.bare (p : PropertyDecl) : PropertyDecl :=
  { p with accessibility := .publicAccess, location := none }

/-- The method without what generation does not look at: its accessibility and its place. -/
def MethodDecl.bare (m : MethodDecl) : MethodDecl :=
  { m with accessibility := .publicAccess, location := none }

/-- A member as generation may see it: bare, and not at all if it is not eligible. -/
def MemberDecl.forwarded? : MemberDecl → Option MemberDecl
  | .property p => if p.isEligible then some (.property p.bare) else none
  | .method m => if m.isEligible then some (.method m.bare) else none
  | .other _ => none

namespace SubjectDecl

/-- The subject with its forwarded members only. -/
def forwarded (s : SubjectDecl) : SubjectDecl :=
  { s with members := s.members.filterMap MemberDecl.forwarded? }

theorem properties_forwarded (s : SubjectDecl) :
    s.forwarded.properties = (s.properties.filter PropertyDecl.isEligible).map PropertyDecl.bare := by
  rw [properties, properties, forwarded, List.filterMap_filterMap, List.filter_filterMap,
    List.map_filterMap]
  congr 1
  funext m
  cases m with
  | property p => cases h : p.isEligible <;> simp [MemberDecl.forwarded?, MemberDecl.property?, Option.filter, h]
  | method m => cases h : m.isEligible <;> simp [MemberDecl.forwarded?, MemberDecl.property?, Option.filter, h]
  | other o => rfl

theorem methods_forwarded (s : SubjectDecl) :
    s.forwarded.methods = (s.methods.filter MethodDecl.isEligible).map MethodDecl.bare := by
  rw [methods, methods, forwarded, List.filterMap_filterMap, List.filter_filterMap,
    List.map_filterMap]
  congr 1
  funext m
  cases m with
  | property p => cases h : p.isEligible <;> simp [MemberDecl.forwarded?, MemberDecl.method?, Option.filter, h]
  | method m => cases h : m.isEligible <;> simp [MemberDecl.forwarded?, MemberDecl.method?, Option.filter, h]
  | other o => rfl

/-- **Deleting what is not forwarded changes no model.** -/
theorem model_forwarded (s : SubjectDecl) : s.forwarded.model = s.model := by
  have hproperties : describeProperties s.forwarded.properties = describeProperties s.properties := by
    rw [properties_forwarded, describeProperties, describeProperties, List.filter_map, List.map_map,
      List.filter_filter]
    congr 2
    refine List.filter_congr fun p _ => ?_
    exact Bool.and_self p.isEligible
  have hmethods : describeMethods s.forwarded.methods = describeMethods s.methods := by
    rw [methods_forwarded, describeMethods, describeMethods, List.filter_map, List.map_map,
      List.filter_filter]
    congr 1
    refine List.filter_congr fun m _ => ?_
    exact Bool.and_self m.isEligible
  have hdescribe : s.forwarded.describe = s.describe := rfl
  have hstatic : s.forwarded.isStatic = s.isStatic := rfl
  rw [model, model, hproperties, hmethods, hdescribe, hstatic]

/-- **What is not forwarded does not matter.** Subjects that agree once such members are deleted have
    one model, and the same is generated for both. So it makes no difference what such members are
    replaced by, and only eligible declarations of a property have a say in whether it is read-only. -/
theorem generate_of_forwarded_eq {s s' : SubjectDecl} (h : s.forwarded = s'.forwarded) :
    s.model = s'.model
      ∧ (∀ o, s.model.generate o = s'.model.generate o)
      ∧ (∀ replace : MemberDecl → MemberDecl,
          (∀ m, (replace m).forwarded? = m.forwarded?) →
            ∀ o, ({ s with members := s.members.map replace } : SubjectDecl).model.generate o
              = s'.model.generate o)
      ∧ ∀ name d, s.model.findProperty? name = some d →
          (d.modifiers.isReadOnly = true
            ↔ ∀ p ∈ s.properties, p.isEligible = true → p.name = name → p.isReadOnly = true) := by
  have hmodel : s.model = s'.model := by
    rw [← model_forwarded s, h, model_forwarded s']
  refine ⟨hmodel, fun o => by rw [hmodel], ?_, ?_⟩
  · intro replace hreplace o
    have hforwarded :
        ({ s with members := s.members.map replace } : SubjectDecl).forwarded = s.forwarded := by
      have hcomp : MemberDecl.forwarded? ∘ replace = MemberDecl.forwarded? := funext hreplace
      simp only [forwarded, List.filterMap_map, hcomp]
    rw [← model_forwarded, hforwarded, model_forwarded, hmodel]
  · intro name d hd
    have hflag := isReadOnly_findProperty? s name
    rw [hd, Option.map_some] at hflag
    split at hflag
    · exact absurd hflag (by simp)
    · rw [Option.some.inj hflag, List.all_eq_true]
      simp only [mem_occurrences, and_imp]

/-- A balance that can be set, but only by who can name its hidden type. -/
def hiddenBalance : PropertyDecl where
  name := "Balance"
  type := { display := "Secret", accessibility := .internalAccess }

/-- A balance that can only be read. -/
def visibleBalance : PropertyDecl where
  name := "Balance"
  type := .named "int"
  isReadOnly := true

/-- An account that declares its balance twice, the hidden declaration first. -/
def account : SubjectDecl where
  name := "Account"
  reference := "global::Bank.Account"
  members :=
    [.property hiddenBalance, .other { name := "_balance" },
      .property { visibleBalance with accessibility := .privateAccess },
      .method { name := "Account", kind := .constructor }]

theorem generate_account :
    letI alone : SubjectDecl := { account with members := [.property visibleBalance] }
    account.forwarded = alone.forwarded
      ∧ account.model = alone.model
      ∧ (∀ o, account.model.generate o = alone.model.generate o)
      ∧ (account.model.findProperty? "Balance").map (·.modifiers.isReadOnly) = some true := by
  have hname : Identifier.isValid "Balance" = true := by decide +kernel
  have hforwarded : account.forwarded
      = ({ account with members := [.property visibleBalance] } : SubjectDecl).forwarded := by
    simp [forwarded, account, List.filterMap_cons, MemberDecl.forwarded?, PropertyDecl.isEligible,
      MethodDecl.isEligible, PropertyDecl.bare, hiddenBalance, visibleBalance, TypeRef.named, TypeRef.isVisible,
      TypeRef.allVisible, TypeRef.containingVisible, Accessibility.isPublic, hname]
  obtain ⟨hmodel, hgenerate, -, -⟩ := generate_of_forwarded_eq hforwarded
  refine ⟨hforwarded, hmodel, hgenerate, ?_⟩
  rw [isReadOnly_findProperty?]
  simp [occurrences, properties, account, List.filterMap_cons, MemberDecl.property?, PropertyDecl.isEligible, hiddenBalance,
    visibleBalance, TypeRef.named, TypeRef.isVisible, TypeRef.allVisible, TypeRef.containingVisible,
    Accessibility.isPublic, hname]

end SubjectDecl

end Companion
