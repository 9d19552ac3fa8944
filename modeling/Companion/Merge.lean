import Companion.Declaration.Subject

/-!
# Merging fragments

A subject may be declared in pieces. Pieces with one reference are fragments of one subject; they
have to agree on the generic parameters and the kind of the first of them. A flag set on any fragment
holds of the whole, the first namespace and the first location that are given are kept, and the
members follow one another. A fragment that disagrees changes nothing.
-/

namespace Companion

/-- What fragments have to agree on. -/
inductive FragmentAspect where
  | genericParameters
  | kind
  deriving DecidableEq, Repr

def FragmentAspect.display : FragmentAspect → String
  | .genericParameters => "generic parameters"
  | .kind => "declaration kind"

/-- Two fragments of one subject that disagree. -/
structure FragmentMismatch where
  reference : String
  aspect : FragmentAspect
  first : String
  second : String
  deriving DecidableEq, Repr

def FragmentMismatch.message (e : FragmentMismatch) : String :=
  "fragments of '" ++ e.reference ++ "' disagree on " ++ e.aspect.display ++ ": '" ++ e.first
    ++ "' vs '" ++ e.second ++ "'"

namespace SubjectDecl

/-- The disagreement between a subject and a further fragment of it, if there is one. -/
def mismatch? (existing fragment : SubjectDecl) : Option FragmentMismatch :=
  if existing.genericParameters != fragment.genericParameters then
    some
      { reference := fragment.reference, aspect := .genericParameters
        first := ", ".intercalate existing.genericParameters
        second := ", ".intercalate fragment.genericParameters }
  else if existing.kind != fragment.kind then
    some
      { reference := fragment.reference, aspect := .kind
        first := existing.kind.display, second := fragment.kind.display }
  else none

def join (existing fragment : SubjectDecl) : SubjectDecl :=
  { existing with
    isStatic := existing.isStatic || fragment.isStatic
    isRefLike := existing.isRefLike || fragment.isRefLike
    isUnsafe := existing.isUnsafe || fragment.isUnsafe
    namespaceName := existing.namespaceName.or fragment.namespaceName
    location := existing.location.or fragment.location
    members := existing.members ++ fragment.members }

end SubjectDecl

/-- The merged subjects, one for each reference, in the order in which the references appeared. -/
structure Merger where
  subjects : List SubjectDecl := []
  deriving Repr

namespace Merger

def get? (m : Merger) (reference : String) : Option SubjectDecl :=
  m.subjects.find? (·.reference == reference)

/-- Changes the first subject with that reference. -/
def update (reference : String) (f : SubjectDecl → SubjectDecl) : List SubjectDecl → List SubjectDecl
  | [] => []
  | s :: rest => if s.reference == reference then f s :: rest else s :: update reference f rest

/-- Takes in a fragment: whether it fits, and what the merger is afterwards. -/
def offer (m : Merger) (fragment : SubjectDecl) : Except FragmentMismatch Unit × Merger :=
  match m.get? fragment.reference with
  | none => (.ok (), { subjects := m.subjects ++ [fragment] })
  | some existing =>
    -- Everything is compared before anything is changed.
    match existing.mismatch? fragment with
    | some e => (.error e, m)
    | none => (.ok (), { subjects := update fragment.reference (·.join fragment) m.subjects })

/-- The merger with the fragment, if it fits. -/
def add (m : Merger) (fragment : SubjectDecl) : Except FragmentMismatch Merger :=
  match m.offer fragment with
  | (.ok (), next) => .ok next
  | (.error e, _) => .error e

/-- A fragment that does not fit leaves the merger as it was. -/
theorem snd_offer_of_error {m : Merger} {fragment : SubjectDecl} {e : FragmentMismatch}
    (h : (m.offer fragment).1 = .error e) : (m.offer fragment).2 = m := by
  unfold offer at h ⊢
  split
  · next hnew =>
    rw [hnew] at h
    cases h
  · next existing hget =>
    simp only [hget] at h
    split
    · rfl
    · next hfits =>
      rw [hfits] at h
      cases h

theorem offer_eq (m : Merger) (fragment : SubjectDecl) :
    m.offer fragment = match m.add fragment with
      | .ok next => (.ok (), next)
      | .error e => (.error e, m) := by
  have hrefused := @snd_offer_of_error m fragment
  unfold add
  cases hoffer : m.offer fragment with
  | mk answer next =>
    cases answer with
    | ok _ => rfl
    | error e =>
      rw [hoffer] at hrefused
      rw [← hrefused rfl]

/-- The subject that a name means: the one with that reference, or else the first of that simple
    name. -/
def find? (m : Merger) (name : String) : Option SubjectDecl :=
  (m.get? name).or (m.subjects.find? (·.name == name))

end Merger

end Companion
