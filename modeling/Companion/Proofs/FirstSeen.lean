import Mathlib.Data.List.Induction
import Mathlib.Data.List.Nodup

/-!
# Keys in the order in which they were first seen

Subjects are kept by reference and described properties by name: what comes in under a key that is
there changes the entry in place, and a new key goes to the end. So the keys are always those that
came in, each once, in the order in which they were first seen (`keys_foldl`), and a key belongs to
one entry (`filter_key_eq_singleton`).
-/

namespace Companion

section

variable {β : Type} [BEq β] [LawfulBEq β]

theorem eraseDups_append_singleton (seen : List β) (b : β) :
    (seen ++ [b]).eraseDups = seen.eraseDups ++ if b ∈ seen then [] else [b] := by
  rw [List.eraseDups_append]
  congr 1
  by_cases h : b ∈ seen
  · simp [List.removeAll, h]
  · simp [List.removeAll, h, List.eraseDups_cons]

theorem nodup_eraseDups (seen : List β) : seen.eraseDups.Nodup := by
  induction seen using List.reverseRecOn with
  | nil => exact .nil
  | append_singleton seen b ih =>
    rw [eraseDups_append_singleton]
    split
    · simpa using ih
    · next hnew =>
      rw [← List.concat_eq_append]
      exact .concat (by simpa using hnew) ih

/-- What each step does to the keys: a key that is new comes last. -/
theorem keys_foldl {σ α : Type} (keys : σ → List β) {step : σ → α → σ} {key : α → β} {init : σ}
    (hinit : keys init = [])
    (hstep : ∀ s a, keys (step s a) = keys s ++ if key a ∈ keys s then [] else [key a])
    (as : List α) : keys (as.foldl step init) = (as.map key).eraseDups := by
  induction as using List.reverseRecOn with
  | nil => exact hinit
  | append_singleton as a ih =>
    rw [List.foldl_append, List.foldl_cons, List.foldl_nil, hstep, ih, List.map_append,
      List.map_singleton, eraseDups_append_singleton]
    simp only [List.mem_eraseDups]

end

section

variable {α β : Type} [BEq β] [LawfulBEq β]

/-- Under distinct keys, an entry is the only one of its key. -/
theorem filter_key_eq_singleton {key : α → β} {entries : List α} (h : (entries.map key).Nodup)
    {a : α} (ha : a ∈ entries) : entries.filter (key · == key a) = [a] := by
  induction entries with
  | nil => exact absurd ha (List.not_mem_nil)
  | cons first rest ih =>
    rw [List.map_cons, List.nodup_cons] at h
    rcases List.mem_cons.mp ha with rfl | ha
    · have hrest : rest.filter (key · == key a) = [] := by
        rw [List.filter_eq_nil_iff]
        intro b hb hsame
        rw [beq_iff_eq] at hsame
        exact h.1 (List.mem_map.mpr ⟨b, hb, hsame⟩)
      rw [List.filter_cons_of_pos (by simp), hrest]
    · have hfirst : key first ≠ key a := fun hsame => h.1 (List.mem_map.mpr ⟨a, ha, hsame.symm⟩)
      rw [List.filter_cons_of_neg (by simpa using hfirst), ih h.2 ha]

theorem find?_key_eq_some {key : α → β} {entries : List α} (h : (entries.map key).Nodup)
    {a : α} (ha : a ∈ entries) : entries.find? (key · == key a) = some a := by
  rw [← List.head?_filter, filter_key_eq_singleton h ha, List.head?_cons]

end

end Companion
