import Companion.Generate
import Companion.Proofs.MergeHistory

/-!
# Subjects in fragments

A subject may be declared at once or in fragments, and it may be cut anywhere: put together again it
is the same subject, so the same comes out for it. Which fragment a flag, a namespace or the setter
of a property stands on makes no difference, and neither do the fragments of other subjects in
between, even if some of those are refused.

**The cut is undone before anything is described.** Fragments make up the whole that they were cut
from (`CutInto.assemble?_eq`), and they are all accepted, since they agree with the first of them.
Nothing behind merging ever sees a fragment.
-/

namespace Companion

namespace SubjectDecl

/-- The fragments are a subject's, cut between members: each has the subject's name and form, and
    what else the subject has is on them in order. -/
structure CutInto (s : SubjectDecl) (fragments : List SubjectDecl) : Prop where
  nonempty : fragments ≠ []
  name : ∀ f ∈ fragments, f.name = s.name
  reference : ∀ f ∈ fragments, f.reference = s.reference
  kind : ∀ f ∈ fragments, f.kind = s.kind
  genericParameters : ∀ f ∈ fragments, f.genericParameters = s.genericParameters
  isStatic : fragments.any (·.isStatic) = s.isStatic
  isRefLike : fragments.any (·.isRefLike) = s.isRefLike
  isUnsafe : fragments.any (·.isUnsafe) = s.isUnsafe
  namespaceName : fragments.findSome? (·.namespaceName) = s.namespaceName
  location : fragments.findSome? (·.location) = s.location
  members : fragments.flatMap (·.members) = s.members

theorem CutInto.agrees {s f g : SubjectDecl} {fragments : List SubjectDecl}
    (h : s.CutInto fragments) (hf : f ∈ fragments) (hg : g ∈ fragments) : f.Agrees g := by
  constructor
  · rw [h.genericParameters f hf, h.genericParameters g hg]
  · rw [h.kind f hf, h.kind g hg]

/-- What was cut is whole again when it is put together. -/
theorem CutInto.assemble?_eq {s : SubjectDecl} {fragments : List SubjectDecl}
    (h : s.CutInto fragments) : assemble? fragments = some s := by
  obtain ⟨first, rest, hfirst⟩ := List.exists_cons_of_ne_nil h.nonempty
  have hmem : first ∈ fragments := by
    rw [hfirst]
    exact List.mem_cons_self
  rw [assemble?, h.isStatic, h.isRefLike, h.isUnsafe, h.namespaceName, h.location, h.members,
    hfirst, List.head?_cons, Option.map_some, h.name first hmem, h.reference first hmem, h.kind first hmem,
    h.genericParameters first hmem]

end SubjectDecl

namespace Merger

open SubjectDecl (CutInto assemble?)

section

variable {s : SubjectDecl} {fragments history : List SubjectDecl}

theorem first?_eq_head?_filter (reference : String) (history : List SubjectDecl) :
    first? reference history = (history.filter (·.reference == reference)).head? := by
  rw [first?, List.head?_filter]

/-- All fragments of a cut are accepted, whatever else is between them. -/
theorem accepted_of_cut (hcut : s.CutInto fragments)
    (hmixed : history.filter (·.reference == s.reference) = fragments) :
    accepted s.reference history = fragments := by
  obtain ⟨first, rest, hfirst⟩ := List.exists_cons_of_ne_nil hcut.nonempty
  have hmem : first ∈ fragments := by
    rw [hfirst]
    exact List.mem_cons_self
  have hagree : fragments.filter (fun f => decide (first.Agrees f)) = fragments := by
    rw [List.filter_eq_self]
    intro f hf
    exact decide_eq_true (hcut.agrees hmem hf)
  have hhead : first? s.reference history = some first := by
    rw [first?_eq_head?_filter, hmixed, hfirst, List.head?_cons]
  rw [accepted, hhead]
  calc history.filter (fun f => f.reference == s.reference && decide (first.Agrees f))
      = (history.filter (·.reference == s.reference)).filter
          (fun f => decide (first.Agrees f)) := by
        simp only [List.filter_filter, Bool.and_comm]
    _ = fragments := by rw [hmixed, hagree]

/-- A fragment of a cut is taken in wherever it comes. -/
theorem add_of_cut (hcut : s.CutInto fragments)
    (hmixed : history.filter (·.reference == s.reference) = fragments)
    {before after : List SubjectDecl} {f : SubjectDecl} (hsplit : history = before ++ f :: after)
    (hf : f.reference = s.reference) : ∃ m, (takeAll {} before).add f = .ok m := by
  cases hadd : (takeAll {} before).add f with
  | ok m => exact ⟨m, rfl⟩
  | error e =>
    -- What it is refused for is an earlier fragment of the cut, and those agree.
    obtain ⟨first, hfirst, hdisagree⟩ := add_takeAll_eq_error_iff.mp ⟨e, hadd⟩
    have hmem : ∀ g ∈ history, g.reference = s.reference → g ∈ fragments := by
      intro g hg hreference
      rw [← hmixed]
      exact List.mem_filter.mpr ⟨hg, by simpa using hreference⟩
    have hbefore : first ∈ before := List.mem_of_find?_eq_some hfirst
    have hreference : first.reference = s.reference := (reference_of_first? hfirst).trans hf
    refine absurd (hcut.agrees (hmem first ?_ hreference) (hmem f ?_ hf)) hdisagree
    · rw [hsplit]
      exact List.mem_append_left _ hbefore
    · rw [hsplit]
      exact List.mem_append_right _ List.mem_cons_self

end

/-- A merger has one subject for each reference. -/
theorem nodup_references (history : List SubjectDecl) :
    ((takeAll {} history).subjects.map (·.reference)).Nodup := by
  rw [map_reference_takeAll]
  exact nodup_eraseDups _

theorem filter_eq_of_get? {history : List SubjectDecl} {reference : String} {s : SubjectDecl}
    (h : (takeAll {} history).get? reference = some s) :
    (takeAll {} history).subjects.filter (·.reference == reference) = [s] := by
  have hreference : s.reference = reference := by simpa using List.find?_some h
  rw [← hreference]
  exact filter_key_eq_singleton (nodup_references history) (List.mem_of_find?_eq_some h)

/-- **Cutting a subject into fragments changes nothing of what is generated for it.** However the
    fragments are mixed with those of other subjects, each is taken in, and there is one subject of
    their reference afterwards, from which the same comes out under any options. -/
theorem generate_takeAll_of_cut {s : SubjectDecl} {fragments history : List SubjectDecl}
    (hcut : s.CutInto fragments)
    (hmixed : history.filter (·.reference == s.reference) = fragments) :
    (∀ before f after, history = before ++ f :: after → f.reference = s.reference →
      ∃ m, (takeAll {} before).add f = .ok m)
      ∧ ∃ whole,
        (takeAll {} history).subjects.filter (·.reference == s.reference) = [whole]
          ∧ ∀ o, whole.model.generate o = s.model.generate o := by
  have hwhole : (takeAll {} history).get? s.reference = some s := by
    rw [get?_takeAll, accepted_of_cut hcut hmixed, hcut.assemble?_eq]
  refine ⟨?_, s, filter_eq_of_get? hwhole, fun _ => rfl⟩
  intro before f after hsplit hf
  exact add_of_cut hcut hmixed hsplit hf

/-- An order with a total that has a getter in one place and a setter in another. -/
def cutOrder : SubjectDecl where
  name := "Order"
  namespaceName := some "Shop"
  reference := "global::Shop.Order"
  isUnsafe := true
  members :=
    [.property { name := "Total", type := .named "int", isReadOnly := true },
      .property { name := "Note", type := .named "string" },
      .property { name := "Total", type := .named "int" }]

/-- Its members in three fragments, the last of them without any. -/
def orderFragments : List SubjectDecl :=
  [{ cutOrder with isUnsafe := false, namespaceName := none, members := cutOrder.members.take 1 },
    { cutOrder with members := cutOrder.members.drop 1 },
    { cutOrder with namespaceName := some "Elsewhere", isUnsafe := false, members := [] }]

/-- The fragments of another subject, the second one refused. -/
def otherFragments : List SubjectDecl :=
  [.ofName "Item" none, { SubjectDecl.ofName "Item" none with kind := .recordType }]

theorem generate_takeAll_of_cutOrder :
    letI history := otherFragments.take 1 ++ orderFragments.take 2 ++ otherFragments.drop 1
      ++ orderFragments.drop 2
    cutOrder.CutInto orderFragments
      ∧ history.filter (·.reference == cutOrder.reference) = orderFragments
      ∧ (∀ before f after, history = before ++ f :: after → f.reference = cutOrder.reference →
        ∃ m, (takeAll {} before).add f = .ok m)
      ∧ ∃ whole,
        (takeAll {} history).subjects.filter (·.reference == cutOrder.reference) = [whole]
          ∧ ∀ o, whole.model.generate o = cutOrder.model.generate o := by
  have hcut : cutOrder.CutInto orderFragments := by
    constructor <;> simp [orderFragments, cutOrder]
  have hmixed : (otherFragments.take 1 ++ orderFragments.take 2 ++ otherFragments.drop 1
      ++ orderFragments.drop 2).filter (·.reference == cutOrder.reference) = orderFragments := by
    simp [otherFragments, orderFragments, cutOrder, SubjectDecl.ofName]
  exact ⟨hcut, hmixed, generate_takeAll_of_cut hcut hmixed⟩

end Merger

end Companion
