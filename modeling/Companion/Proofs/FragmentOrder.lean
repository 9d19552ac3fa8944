import Companion.Proofs.Extraction
import Companion.Proofs.Fragments
import Companion.Proofs.Loading.History

/-!
# Fragments in another order

Fragments are compared with the first one of their reference, and some of what the whole has is the
first one's. So it could matter which fragment comes first. It does not matter for whether all are
taken in, since agreeing is mutual (`exists_addAll_iff`), and of the whole it decides the name, the
namespace, the location and the order of the members, and nothing else (`Resembles`).

**What is told apart later does not see the order.** Neither what becomes of a subject nor whether
one of its properties is read-only depends on any of that (`Resembles.fate_eq`,
`Resembles.isReadOnly_eq`).
-/

namespace Companion

/-! ## Subjects up to order -/

namespace SubjectDecl

/-- The subjects differ at most in what the order of their fragments decides. -/
structure Resembles (s s' : SubjectDecl) : Prop where
  reference : s.reference = s'.reference
  kind : s.kind = s'.kind
  genericParameters : s.genericParameters = s'.genericParameters
  isStatic : s.isStatic = s'.isStatic
  isRefLike : s.isRefLike = s'.isRefLike
  isUnsafe : s.isUnsafe = s'.isUnsafe
  members : s.members.Perm s'.members

section

variable {s s' : SubjectDecl}

theorem Resembles.fate_eq (h : s.Resembles s') : s.fate = s'.fate := by
  rw [fate, fate, h.isStatic, h.kind]

theorem Resembles.isReadOnly_eq (h : s.Resembles s') (name : String) :
    (s.model.findProperty? name).map (·.modifiers.isReadOnly)
      = (s'.model.findProperty? name).map (·.modifiers.isReadOnly) :=
  isReadOnly_findProperty?_perm h.isStatic h.members name

theorem Agrees.symm (h : s.Agrees s') : s'.Agrees s :=
  ⟨h.1.symm, h.2.symm⟩

end

/-- Fragments that agree make up wholes that resemble each other, in whatever order. -/
theorem resembles_of_assemble? {fragments fragments' : List SubjectDecl} {s s' : SubjectDecl}
    (hperm : fragments.Perm fragments')
    (hreference : ∀ f ∈ fragments, ∀ g ∈ fragments, f.reference = g.reference)
    (hagree : ∀ f ∈ fragments, ∀ g ∈ fragments, f.Agrees g)
    (h : assemble? fragments = some s) (h' : assemble? fragments' = some s') :
    s.Resembles s' := by
  cases fragments with
  | nil => exact absurd h (by simp [assemble?])
  | cons first rest =>
    cases fragments' with
    | nil => exact absurd h' (by simp [assemble?])
    | cons first' rest' =>
      have hmem : first ∈ first :: rest := List.mem_cons_self
      have hmem' : first' ∈ first :: rest := hperm.mem_iff.mpr List.mem_cons_self
      have hfirst := hagree first' hmem' first hmem
      obtain rfl := Option.some.inj h
      obtain rfl := Option.some.inj h'
      exact {
        reference := hreference first hmem first' hmem'
        kind := hfirst.2
        genericParameters := hfirst.1
        isStatic := hperm.any_eq
        isRefLike := hperm.any_eq
        isUnsafe := hperm.any_eq
        members := hperm.flatMap_right _ }

end SubjectDecl

/-! ## Histories up to order -/

namespace Merger

open SubjectDecl (Agrees Resembles assemble?)

/-- Fragments of one reference agree with each other. -/
def Consistent (history : List SubjectDecl) : Prop :=
  ∀ f ∈ history, ∀ g ∈ history, f.reference = g.reference → f.Agrees g

section

variable {history history' : List SubjectDecl}

theorem consistent_append_singleton {f : SubjectDecl} :
    Consistent (history ++ [f])
      ↔ Consistent history ∧ ∀ g ∈ history, g.reference = f.reference → g.Agrees f := by
  constructor
  · intro h
    refine ⟨fun g hg g' hg' => ?_, fun g hg => ?_⟩
    · exact h g (List.mem_append_left _ hg) g' (List.mem_append_left _ hg')
    · exact h g (List.mem_append_left _ hg) f (List.mem_append_right _ List.mem_cons_self)
  · rintro ⟨h, hf⟩ g hg g' hg' hreference
    rw [List.mem_append, List.mem_singleton] at hg hg'
    rcases hg with hg | rfl
    · rcases hg' with hg' | rfl
      · exact h g hg g' hg' hreference
      · exact hf g hg hreference
    · rcases hg' with hg' | rfl
      · exact (hf g' hg' hreference.symm).symm
      · exact ⟨rfl, rfl⟩

/-- Where a list is taken in, its first part is, and the other part behind it. -/
theorem addAll_append_eq_ok {m m' : Merger} {a b : List SubjectDecl}
    (h : m.addAll (a ++ b) = (.ok (), m')) :
    ∃ between, m.addAll a = (.ok (), between) ∧ between.addAll b = (.ok (), m') := by
  induction a generalizing m with
  | nil => exact ⟨m, rfl, h⟩
  | cons f rest ih =>
    rw [List.cons_append, addAll_cons] at h
    rw [addAll_cons]
    cases hadd : m.add f with
    | error e =>
      rw [hadd] at h
      exact absurd (congrArg Prod.fst h) (by simp)
    | ok next =>
      rw [hadd] at h
      exact ih h

theorem exists_add_of_addAll_singleton {m m' : Merger} {f : SubjectDecl}
    (h : m.addAll [f] = (.ok (), m')) : ∃ next, m.add f = .ok next := by
  rw [addAll_cons] at h
  cases hadd : m.add f with
  | error e =>
    rw [hadd] at h
    exact absurd (congrArg Prod.fst h) (by simp)
  | ok next => exact ⟨next, rfl⟩

theorem get?_of_mem {s : SubjectDecl} (hs : s ∈ (takeAll {} history).subjects) :
    (takeAll {} history).get? s.reference = some s :=
  find?_key_eq_some (nodup_references history) hs

/-- Where all are taken in, taking in is adding. -/
theorem eq_takeAll_of_addAll {m m' : Merger} (h : m.addAll history = (.ok (), m')) :
    m' = m.takeAll history := by
  induction history generalizing m with
  | nil => exact (congrArg Prod.snd h).symm
  | cons f rest ih =>
    rw [addAll_cons] at h
    rw [takeAll, List.foldl_cons, take, offer_eq]
    cases hadd : m.add f with
    | error e =>
      rw [hadd] at h
      exact absurd (congrArg Prod.fst h) (by simp)
    | ok next =>
      rw [hadd] at h
      exact ih h

/-- A fragment is taken in behind consistent ones exactly if it agrees with all of its reference. -/
theorem add_takeAll_eq_ok_iff (h : Consistent history) {f : SubjectDecl} :
    (∃ m, (takeAll {} history).add f = .ok m)
      ↔ ∀ g ∈ history, g.reference = f.reference → g.Agrees f := by
  have herror : (∃ m, (takeAll {} history).add f = .ok m)
      ↔ ¬ ∃ first, first? f.reference history = some first ∧ ¬ first.Agrees f := by
    rw [← add_takeAll_eq_error_iff]
    cases (takeAll {} history).add f <;> simp
  rw [herror]
  constructor
  · intro hnone g hg hreference
    -- The first fragment of the reference agrees with this one and with the new one.
    have hsome : (first? f.reference history).isSome := by
      rw [first?, List.find?_isSome]
      exact ⟨g, hg, by simpa using hreference⟩
    obtain ⟨first, hfirst⟩ := Option.isSome_iff_exists.mp hsome
    have hnew : first.Agrees f := by
      by_contra hdisagree
      exact hnone ⟨first, hfirst, hdisagree⟩
    have hold : first.Agrees g :=
      h first (List.mem_of_find?_eq_some hfirst) g hg
        ((reference_of_first? hfirst).trans hreference.symm)
    exact ⟨hnew.1.trans hold.1.symm, hnew.2.trans hold.2.symm⟩
  · rintro hall ⟨first, hfirst, hdisagree⟩
    exact hdisagree
      (hall first (List.mem_of_find?_eq_some hfirst) (reference_of_first? hfirst))

/-- **Fragments are all taken in exactly if those of one reference agree with each other.** -/
theorem exists_addAll_iff : (∃ m, addAll {} history = (.ok (), m)) ↔ Consistent history := by
  induction history using List.reverseRecOn with
  | nil => exact iff_of_true ⟨{}, rfl⟩ fun f hf => absurd hf List.not_mem_nil
  | append_singleton history f ih =>
    rw [consistent_append_singleton]
    constructor
    · rintro ⟨m, hm⟩
      obtain ⟨between, hbetween, hadd⟩ := addAll_append_eq_ok hm
      have hhistory := ih.mp ⟨between, hbetween⟩
      rw [eq_takeAll_of_addAll hbetween] at hadd
      exact ⟨hhistory, (add_takeAll_eq_ok_iff hhistory).mp (exists_add_of_addAll_singleton hadd)⟩
    · rintro ⟨hhistory, hf⟩
      obtain ⟨between, hbetween⟩ := ih.mpr hhistory
      obtain ⟨m, hm⟩ := (add_takeAll_eq_ok_iff hhistory).mpr hf
      refine ⟨m, ?_⟩
      rw [addAll_append hbetween, addAll_cons, eq_takeAll_of_addAll hbetween, hm]
      rfl

/-- What is accepted of consistent fragments is everything. -/
theorem Consistent.accepted_eq (h : Consistent history) (reference : String) :
    accepted reference history = history.filter (·.reference == reference) := by
  unfold accepted
  cases hfirst : first? reference history with
  | none =>
    symm
    rw [List.filter_eq_nil_iff]
    simpa [first?] using hfirst
  | some first =>
    refine List.filter_congr fun f hf => ?_
    by_cases hreference : f.reference = reference
    · have hagrees : first.Agrees f :=
        h first (List.mem_of_find?_eq_some hfirst) f hf
          ((reference_of_first? hfirst).trans hreference.symm)
      simp [hreference, hagrees]
    · simp [hreference]

/-- **Merged in another order**, there are subjects of the same references, and each resembles the
    one of the other order. -/
theorem addAll_perm {m m' : Merger} (hperm : history.Perm history')
    (h : addAll {} history = (.ok (), m)) (h' : addAll {} history' = (.ok (), m')) :
    (m.subjects.map (·.reference)).Perm (m'.subjects.map (·.reference))
      ∧ ∀ s ∈ m.subjects, ∀ s' ∈ m'.subjects, s.reference = s'.reference → s.Resembles s' := by
  have hconsistent := exists_addAll_iff.mp ⟨m, h⟩
  have hconsistent' := exists_addAll_iff.mp ⟨m', h'⟩
  obtain rfl := eq_takeAll_of_addAll h
  obtain rfl := eq_takeAll_of_addAll h'
  refine ⟨?_, ?_⟩
  · rw [List.perm_ext_iff_of_nodup (nodup_references history) (nodup_references history')]
    intro reference
    rw [map_reference_takeAll, map_reference_takeAll, List.mem_eraseDups, List.mem_eraseDups]
    exact (hperm.map _).mem_iff
  · intro s hs s' hs' hreference
    have hwhole := get?_takeAll s.reference history
    have hwhole' := get?_takeAll s.reference history'
    rw [hconsistent.accepted_eq, get?_of_mem hs] at hwhole
    rw [hconsistent'.accepted_eq, hreference, get?_of_mem hs'] at hwhole'
    rw [hreference] at hwhole
    refine SubjectDecl.resembles_of_assemble? (hperm.filter _) ?_ ?_ hwhole.symm hwhole'.symm
    · intro f hf g hg
      rw [List.mem_filter, beq_iff_eq] at hf hg
      exact hf.2.trans hg.2.symm
    · intro f hf g hg
      rw [List.mem_filter, beq_iff_eq] at hf hg
      exact hconsistent f hf.1 g hg.1 (hf.2.trans hg.2.symm)

end

end Merger

end Companion
