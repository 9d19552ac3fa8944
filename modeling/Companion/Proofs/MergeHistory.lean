import Companion.Merge
import Companion.Proofs.FirstSeen

/-!
# What a merger holds after any history

A merger sees fragments one at a time and changes the subject they belong to in place. This file
says what it holds after *any* sequence of them, in terms of the sequence alone: fragments of many
subjects may be interleaved, and fragments that are refused may stand anywhere in between.

* The subjects are those whose references were seen, in the order in which they were first seen.
* A subject is the whole (`assemble?`) of its accepted fragments (`accepted`): those that agree with
  the first fragment of that reference.
* A fragment is refused exactly if it disagrees with that first fragment.

The induction adds fragments at the end of a history, because that is where a merger adds them.
What carries it is that a subject keeps the generic parameters and the kind of its first fragment,
so that comparing with the merged subject is comparing with the first fragment.
-/

namespace Companion

namespace SubjectDecl

/-- The fragment has the generic parameters and the kind of the first one. -/
def Agrees (first fragment : SubjectDecl) : Prop :=
  fragment.genericParameters = first.genericParameters ∧ fragment.kind = first.kind

instance (first fragment : SubjectDecl) : Decidable (first.Agrees fragment) :=
  inferInstanceAs (Decidable (_ ∧ _))

/-- The subject that fragments make up: named and formed by the first, marked by any of them, placed
    by the first that says where it is, with the members of all in order. -/
def assemble? (fragments : List SubjectDecl) : Option SubjectDecl :=
  fragments.head?.map fun first =>
    { first with
      isStatic := fragments.any (·.isStatic)
      isRefLike := fragments.any (·.isRefLike)
      isUnsafe := fragments.any (·.isUnsafe)
      namespaceName := fragments.findSome? (·.namespaceName)
      location := fragments.findSome? (·.location)
      members := fragments.flatMap (·.members) }

theorem mismatch?_eq_none_iff {existing fragment : SubjectDecl} :
    existing.mismatch? fragment = none ↔ existing.Agrees fragment := by
  unfold mismatch? Agrees
  by_cases hg : existing.genericParameters = fragment.genericParameters
  · by_cases hk : existing.kind = fragment.kind
    · simp [hg, hk]
    · simp [hg, hk, Ne.symm hk]
  · simp [hg, Ne.symm hg]

theorem assemble?_singleton (f : SubjectDecl) : assemble? [f] = some f := by
  obtain ⟨_, _ | _, _, _, _, _, _, _, _ | _, _⟩ := f <;> simp [assemble?]

/-- A whole with one more fragment is the whole joined with it. -/
theorem assemble?_append {fragments : List SubjectDecl} {s : SubjectDecl}
    (h : assemble? fragments = some s) (f : SubjectDecl) :
    assemble? (fragments ++ [f]) = some (s.join f) := by
  cases fragments with
  | nil => exact absurd h (by simp [assemble?])
  | cons first rest =>
    obtain rfl := Option.some.inj h
    simp [assemble?, join, Bool.or_assoc, List.findSome?_cons]
    constructor
    · cases first.namespaceName <;> cases rest.findSome? (·.namespaceName) <;>
        cases f.namespaceName <;> rfl
    · cases first.location <;> cases rest.findSome? (·.location) <;> cases f.location <;> rfl

theorem reference_join (s f : SubjectDecl) : (s.join f).reference = s.reference :=
  rfl

end SubjectDecl

namespace Merger

open SubjectDecl (Agrees assemble?)

/-- The merger after a fragment, whether it is taken in or refused. -/
def take (m : Merger) (fragment : SubjectDecl) : Merger :=
  (m.offer fragment).2

/-- Takes in a history of fragments. -/
def takeAll (m : Merger) (history : List SubjectDecl) : Merger :=
  history.foldl take m

/-- The first fragment of that reference. -/
def first? (reference : String) (history : List SubjectDecl) : Option SubjectDecl :=
  history.find? (·.reference == reference)

/-- The fragments of that reference that agree with the first of them. -/
def accepted (reference : String) (history : List SubjectDecl) : List SubjectDecl :=
  match first? reference history with
  | none => []
  | some first => history.filter fun f => f.reference == reference && decide (first.Agrees f)

/-! ## The history grows at its end -/

theorem first?_append (reference : String) (history : List SubjectDecl) (f : SubjectDecl) :
    first? reference (history ++ [f])
      = (first? reference history).or (if f.reference = reference then some f else none) := by
  rw [first?, List.find?_append, List.find?_singleton, first?]
  simp

theorem reference_of_first? {reference : String} {history : List SubjectDecl} {first : SubjectDecl}
    (h : first? reference history = some first) : first.reference = reference := by
  simpa using List.find?_some h

theorem accepted_append_other {reference : String} {f : SubjectDecl} (h : f.reference ≠ reference)
    (history : List SubjectDecl) :
    accepted reference (history ++ [f]) = accepted reference history := by
  rw [accepted, accepted, first?_append, if_neg h, Option.or_none]
  cases first? reference history with
  | none => rfl
  | some first => simp [List.filter_append, h]

theorem accepted_append_new {history : List SubjectDecl} {f : SubjectDecl}
    (h : first? f.reference history = none) : accepted f.reference (history ++ [f]) = [f] := by
  have hnone : ∀ g ∈ history, g.reference ≠ f.reference := by
    simpa [first?] using h
  have hfilter :
      history.filter (fun g => g.reference == f.reference && decide (f.Agrees g)) = [] := by
    rw [List.filter_eq_nil_iff]
    intro g hg
    simp [hnone g hg]
  rw [accepted, first?_append, h, if_pos rfl, Option.none_or]
  show List.filter _ _ = _
  rw [List.filter_append, hfilter]
  simp [Agrees]

theorem accepted_append_known {history : List SubjectDecl} {f first : SubjectDecl}
    (h : first? f.reference history = some first) :
    accepted f.reference (history ++ [f])
      = accepted f.reference history ++ if first.Agrees f then [f] else [] := by
  rw [accepted, first?_append, accepted, h, Option.some_or]
  simp only [List.filter_append]
  split <;> simp [*]

theorem head?_accepted {reference : String} {history : List SubjectDecl} {first : SubjectDecl}
    (h : first? reference history = some first) :
    (accepted reference history).head? = some first := by
  have hself : (first.reference == reference && decide (first.Agrees first)) = true := by
    simp [reference_of_first? h, Agrees]
  rw [accepted, h]
  show (List.filter _ _).head? = _
  rw [List.head?_filter]
  -- The first fragment is the first of that reference, so nothing before it passes the filter.
  obtain ⟨_, before, after, rfl, hbefore⟩ := List.find?_eq_some_iff_append.mp h
  rw [List.find?_append, List.find?_eq_none.mpr, Option.none_or]
  · exact List.find?_cons_of_pos hself
  · intro g hg
    have hother : g.reference ≠ reference := by simpa using hbefore g hg
    simp [hother]

theorem exists_assemble?_accepted {reference : String} {history : List SubjectDecl}
    {first : SubjectDecl} (h : first? reference history = some first) :
    ∃ s, assemble? (accepted reference history) = some s := by
  rw [assemble?, head?_accepted h]
  exact ⟨_, rfl⟩

/-- The whole of a subject has the generic parameters and the kind of its first fragment. -/
theorem agrees_iff_of_assemble? {reference : String} {history : List SubjectDecl}
    {first s f : SubjectDecl} (hfirst : first? reference history = some first)
    (hs : assemble? (accepted reference history) = some s) : s.Agrees f ↔ first.Agrees f := by
  rw [assemble?, head?_accepted hfirst] at hs
  obtain rfl := Option.some.inj hs
  exact Iff.rfl

/-! ## One fragment -/

theorem map_reference_update (reference : String) {f : SubjectDecl → SubjectDecl}
    (hf : ∀ s, (f s).reference = s.reference) (subjects : List SubjectDecl) :
    (update reference f subjects).map (·.reference) = subjects.map (·.reference) := by
  induction subjects with
  | nil => rfl
  | cons s rest ih =>
    unfold update
    split
    · simp [hf]
    · simp [ih]

theorem find?_update_self {reference : String} {f : SubjectDecl → SubjectDecl}
    (hf : ∀ s, (f s).reference = s.reference) (subjects : List SubjectDecl) :
    (update reference f subjects).find? (·.reference == reference)
      = (subjects.find? (·.reference == reference)).map f := by
  induction subjects with
  | nil => rfl
  | cons s rest ih =>
    unfold update
    by_cases h : s.reference = reference
    · simp [h, hf]
    · simp [h, ih]

theorem find?_update_other {reference other : String} (hne : other ≠ reference)
    {f : SubjectDecl → SubjectDecl} (hf : ∀ s, (f s).reference = s.reference)
    (subjects : List SubjectDecl) :
    (update reference f subjects).find? (·.reference == other)
      = subjects.find? (·.reference == other) := by
  induction subjects with
  | nil => rfl
  | cons s rest ih =>
    unfold update
    by_cases h : s.reference = reference
    · simp [h, hf, Ne.symm hne]
    · by_cases h' : s.reference = other
      · simp [h', hne]
      · simp [h, h', ih]

/-- A fragment of a new reference becomes a subject, the last one. -/
theorem take_new {m : Merger} {f : SubjectDecl} (h : m.get? f.reference = none) :
    m.take f = { subjects := m.subjects ++ [f] } := by
  simp [take, offer, h]

/-- A fragment that agrees with its subject joins it. -/
theorem take_agreeing {m : Merger} {f existing : SubjectDecl}
    (h : m.get? f.reference = some existing) (hf : existing.Agrees f) :
    m.take f = { subjects := update f.reference (·.join f) m.subjects } := by
  simp [take, offer, h, SubjectDecl.mismatch?_eq_none_iff.mpr hf]

/-- A fragment is refused exactly if there is a subject that it disagrees with. -/
theorem add_eq_error_iff {m : Merger} {f : SubjectDecl} :
    (∃ e, m.add f = .error e)
      ↔ ∃ existing, m.get? f.reference = some existing ∧ ¬ existing.Agrees f := by
  unfold add offer
  cases h : m.get? f.reference with
  | none => simp
  | some existing =>
    cases hm : existing.mismatch? f with
    | none => simp [hm, SubjectDecl.mismatch?_eq_none_iff.mp hm]
    | some e =>
      have hf : ¬ existing.Agrees f := by
        intro hf
        exact absurd (SubjectDecl.mismatch?_eq_none_iff.mpr hf) (by simp [hm])
      simp [hm, hf]

theorem take_refused {m : Merger} {f : SubjectDecl} (h : ∃ e, m.add f = .error e) :
    m.take f = m := by
  obtain ⟨e, he⟩ := h
  rw [take, offer_eq, he]

theorem get?_take_other {reference : String} {f : SubjectDecl} (h : f.reference ≠ reference)
    (m : Merger) : (m.take f).get? reference = m.get? reference := by
  cases hget : m.get? f.reference with
  | none =>
    rw [take_new hget, get?, List.find?_append, get?]
    simp [h]
  | some existing =>
    by_cases hf : existing.Agrees f
    · rw [take_agreeing hget hf]
      exact find?_update_other (Ne.symm h) (·.reference_join f) m.subjects
    · rw [take_refused (add_eq_error_iff.mpr ⟨existing, hget, hf⟩)]

theorem map_reference_take (m : Merger) (f : SubjectDecl) :
    (m.take f).subjects.map (·.reference)
      = m.subjects.map (·.reference)
        ++ if f.reference ∈ m.subjects.map (·.reference) then [] else [f.reference] := by
  cases hget : m.get? f.reference with
  | none =>
    have hnew : f.reference ∉ m.subjects.map (·.reference) := by
      simpa [get?] using hget
    rw [take_new hget, if_neg hnew, List.map_append]
    rfl
  | some existing =>
    have hreference : existing.reference = f.reference := by
      simpa using List.find?_some hget
    have hold : f.reference ∈ m.subjects.map (·.reference) :=
      List.mem_map.mpr ⟨existing, List.mem_of_find?_eq_some hget, hreference⟩
    rw [if_pos hold, List.append_nil]
    by_cases hf : existing.Agrees f
    · rw [take_agreeing hget hf]
      exact map_reference_update _ (·.reference_join f) m.subjects
    · rw [take_refused (add_eq_error_iff.mpr ⟨existing, hget, hf⟩)]

/-! ## The whole history -/

theorem takeAll_append (m : Merger) (history : List SubjectDecl) (f : SubjectDecl) :
    m.takeAll (history ++ [f]) = (m.takeAll history).take f := by
  simp [takeAll]

/-- What a merger holds after a history, for each reference. -/
theorem get?_takeAll (reference : String) (history : List SubjectDecl) :
    (takeAll {} history).get? reference = assemble? (accepted reference history) := by
  induction history using List.reverseRecOn with
  | nil => rfl
  | append_singleton history f ih =>
    rw [takeAll_append]
    by_cases h : f.reference = reference
    · subst h
      cases hfirst : first? f.reference history with
      | none =>
        have hget : (takeAll {} history).get? f.reference = none := by
          rw [ih, accepted, hfirst]
          rfl
        rw [take_new hget, accepted_append_new hfirst, SubjectDecl.assemble?_singleton, get?,
          List.find?_append, ← get?, hget]
        simp
      | some first =>
        -- The merger compares with the merged subject, the history with the first fragment.
        obtain ⟨s, hs⟩ := exists_assemble?_accepted hfirst
        have hagree := agrees_iff_of_assemble? (f := f) hfirst hs
        rw [hs] at ih
        rw [accepted_append_known hfirst]
        by_cases hf : first.Agrees f
        · rw [if_pos hf, SubjectDecl.assemble?_append hs, take_agreeing ih (hagree.mpr hf)]
          show List.find? _ _ = _
          rw [find?_update_self (·.reference_join f), ← get?, ih]
          rfl
        · have hrefused := add_eq_error_iff.mpr ⟨s, ih, fun hs => hf (hagree.mp hs)⟩
          rw [if_neg hf, List.append_nil, take_refused hrefused, ih, hs]
    · rw [get?_take_other h, accepted_append_other h, ih]

theorem map_reference_takeAll (history : List SubjectDecl) :
    (takeAll {} history).subjects.map (·.reference)
      = (history.map (·.reference)).eraseDups :=
  keys_foldl (fun m : Merger => m.subjects.map (·.reference)) rfl map_reference_take history

/-- A fragment is refused exactly if it disagrees with the first one of its reference. -/
theorem add_takeAll_eq_error_iff {history : List SubjectDecl} {f : SubjectDecl} :
    (∃ e, (takeAll {} history).add f = .error e)
      ↔ ∃ first, first? f.reference history = some first ∧ ¬ first.Agrees f := by
  rw [add_eq_error_iff, get?_takeAll]
  constructor
  · rintro ⟨s, hs, hf⟩
    cases hfirst : first? f.reference history with
    | none => exact absurd hs (by simp [accepted, hfirst, assemble?])
    | some first => exact ⟨first, rfl, fun h => hf ((agrees_iff_of_assemble? hfirst hs).mpr h)⟩
  · rintro ⟨first, hfirst, hf⟩
    obtain ⟨s, hs⟩ := exists_assemble?_accepted hfirst
    exact ⟨s, hs, fun h => hf ((agrees_iff_of_assemble? hfirst hs).mp h)⟩

/-- After any history, a merger holds the wholes of the accepted fragments, in the order in which
    the references were first seen. It refuses what disagrees with the first fragment of its
    reference, and is then as it was. -/
theorem takeAll_eq_assembled (history : List SubjectDecl) :
    (takeAll {} history).subjects.map (·.reference) = (history.map (·.reference)).eraseDups
      ∧ (∀ reference,
          (takeAll {} history).get? reference = assemble? (accepted reference history))
      ∧ ∀ f,
          ((∃ e, (takeAll {} history).add f = .error e)
            ↔ ∃ first, first? f.reference history = some first ∧ ¬ first.Agrees f)
          ∧ ((∃ e, (takeAll {} history).add f = .error e)
            → takeAll {} (history ++ [f]) = takeAll {} history) := by
  refine ⟨map_reference_takeAll history, fun reference => get?_takeAll reference history, ?_⟩
  intro f
  refine ⟨add_takeAll_eq_error_iff, ?_⟩
  intro h
  rw [takeAll_append, take_refused h]

end Merger

end Companion
