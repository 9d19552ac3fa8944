import Companion.Declaration.TypeRef
import Mathlib.Logic.Basic
import Mathlib.Logic.Relation

/-!
# Types inside of types

A type has other types inside of it: what a pointer points to, the elements of an array, the
constraints of a type parameter, type arguments, and the type that it is nested in. A question about
a type that is answered by looking at its parts is a question about all types inside of it, as long
as one says which places are followed from which type: whether there is such a type inside
(`exists_within_iff`), or whether all of them are such (`forall_within_iff`). Different questions
follow different places, and what a question misses stands behind one that it does not follow.
-/

namespace Companion

open Relation (ReflTransGen)

/-- How one type may stand in another: as what a pointer points to, as the element of an array, as a
    constraint of a type parameter, as a type argument, or as the type that it is nested in. -/
inductive Place where
  | pointee
  | element
  | constraint
  | argument
  | container
  deriving DecidableEq, Repr

theorem Place.forall_iff {holds : Place → Prop} :
    (∀ place, holds place) ↔ holds .pointee ∧ holds .element ∧ holds .constraint
      ∧ holds .argument ∧ holds .container := by
  constructor
  · intro h
    exact ⟨h _, h _, h _, h _, h _⟩
  · rintro ⟨hpointee, helement, hconstraint, hargument, hcontainer⟩ place
    cases place <;> assumption

namespace TypeRef

def partsAt (t : TypeRef) : Place → List TypeRef
  | .pointee =>
    match t.shape with
    | .pointer pointee => [pointee]
    | _ => []
  | .element =>
    match t.shape with
    | .array element => [element]
    | _ => []
  | .constraint =>
    match t.shape with
    | .typeParameter constraints => constraints
    | _ => []
  | .argument => t.typeArguments
  | .container => t.containingType.toList

theorem sizeOf_lt_of_mem_partsAt {t u : TypeRef} {place : Place} (h : u ∈ t.partsAt place) :
    sizeOf u < sizeOf t := by
  obtain ⟨display, accessibility, shape, arguments, containing⟩ := t
  cases place with
  | pointee =>
    cases shape with
    | pointer pointee =>
      obtain rfl := List.mem_singleton.mp h
      simp
      omega
    | _ => exact absurd h (by simp [partsAt])
  | element =>
    cases shape with
    | array element =>
      obtain rfl := List.mem_singleton.mp h
      simp
      omega
    | _ => exact absurd h (by simp [partsAt])
  | constraint =>
    cases shape with
    | typeParameter constraints =>
      have hlt := List.sizeOf_lt_of_mem h
      simp [partsAt] at hlt ⊢
      omega
    | _ => exact absurd h (by simp [partsAt])
  | argument =>
    have hlt := List.sizeOf_lt_of_mem h
    simp [partsAt] at hlt ⊢
    omega
  | container =>
    obtain rfl : containing = some u := by simpa [partsAt] using h
    simp
    omega

/-- The second type is inside the first, or is that type, along places that are followed. -/
def Within (follow : TypeRef → Place → Prop) : TypeRef → TypeRef → Prop :=
  ReflTransGen fun t u => ∃ place, follow t place ∧ u ∈ t.partsAt place

section

variable {follow follow' : TypeRef → Place → Prop} {t u : TypeRef}

/-- What is asked of a type and else of its parts is asked of all types inside of it. -/
theorem exists_within_iff {own found : TypeRef → Prop}
    (h : ∀ t, found t ↔ own t ∨ ∃ place, follow t place ∧ ∃ u ∈ t.partsAt place, found u)
    (t : TypeRef) : found t ↔ ∃ u, Within follow t u ∧ own u := by
  constructor
  · -- A part is smaller than the type, so the way down ends.
    induction hn : sizeOf t using Nat.strongRecOn generalizing t with
    | ind n ih =>
      intro hfound
      rcases (h t).mp hfound with hown | ⟨place, hfollow, u, hu, hfound⟩
      · exact ⟨t, .refl, hown⟩
      · obtain ⟨v, hwithin, hown⟩ := ih _ (hn ▸ sizeOf_lt_of_mem_partsAt hu) u rfl hfound
        exact ⟨v, .head ⟨place, hfollow, hu⟩ hwithin, hown⟩
  · rintro ⟨u, hwithin, hown⟩
    induction hwithin using ReflTransGen.head_induction_on with
    | refl => exact (h u).mpr (.inl hown)
    | head hstep _ ih =>
      obtain ⟨place, hfollow, hu⟩ := hstep
      exact (h _).mpr (.inr ⟨place, hfollow, _, hu, ih⟩)

/-- What is asked of a type and of all its parts is asked of all types inside of it. -/
theorem forall_within_iff {own found : TypeRef → Prop}
    (h : ∀ t, found t ↔ own t ∧ ∀ place, follow t place → ∀ u ∈ t.partsAt place, found u)
    (t : TypeRef) : found t ↔ ∀ u, Within follow t u → own u := by
  -- Not to be found is to have the fault oneself or in a part.
  have hfails : ∀ t, ¬ found t
      ↔ ¬ own t ∨ ∃ place, follow t place ∧ ∃ u ∈ t.partsAt place, ¬ found u := by
    intro t
    rw [h t]
    simp only [not_and_or, not_forall, exists_prop]
  rw [← not_iff_not, exists_within_iff hfails t]
  simp only [not_forall, exists_prop]

theorem Within.mono (hfollow : ∀ t place, follow t place → follow' t place)
    (h : Within follow t u) : Within follow' t u :=
  ReflTransGen.mono (fun _ _ ⟨place, hplace, hu⟩ => ⟨place, hfollow _ place hplace, hu⟩) _ _ h

end

end TypeRef

end Companion
