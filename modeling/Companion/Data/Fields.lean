import Companion.Data.Vocabulary

/-!
# Reading the fields of a record

The three ways in which a field is read (it must be there, it has a default, it may be null), the
form in which one field names the variant that the other fields belong to, and the fact that makes
reading nested records end: what a field holds is smaller than the record.
-/

namespace Companion

def required {α : Type} (fields : List (String × Value)) (name : String)
    (read : Value → Option α) : Option α :=
  (field? fields name).bind read

def withDefault {α : Type} (fields : List (String × Value)) (name : String)
    (read : Value → Option α) (default : α) : Option α :=
  match field? fields name with
  | none => some default
  | some v => read v

/-- A field that may be null or missing. -/
def nullable {α : Type} (fields : List (String × Value)) (name : String)
    (read : Value → Option α) : Option (Option α) :=
  withDefault fields name (Value.optional? read) none

def Value.listOf? {α : Type} (read : Value → Option α) (v : Value) : Option (List α) :=
  v.list?.bind fun items => items.mapM read

namespace Value

/-- The entries under a name, and the others. -/
def splitName (name : String) (entries : List (Key × Value)) :
    List (Key × Value) × List (Key × Value) :=
  entries.partition fun e => e.1 == .name name

/-- The field that names the variant, and the variant's own fields. It stands once among the entries
    of a record, or first in a list. -/
def tagged? (name : String) : Value → Option (Value × Value)
  | .record entries =>
    match splitName name entries with
    | ([(_, v)], rest) => some (v, .record rest)
    | _ => none
  | .list (v :: rest) => some (v, .list rest)
  | _ => none

/-! ## What a record holds is smaller than the record -/

theorem mem_of_field? {fields : List (String × Value)} {name : String} {w : Value}
    (h : field? fields name = some w) : (name, w) ∈ fields := by
  unfold field? at h
  induction fields with
  | nil => simp at h
  | cons f rest ih =>
    rw [List.lookup_cons] at h
    split at h
    · next hn =>
      simp only [Option.some.injEq] at h
      have : name = f.1 := by simpa using hn
      subst this; subst h; simp
    · exact List.mem_cons_of_mem _ (ih h)

theorem mem_of_readEntries? {known : List String} {entries : List (Key × Value)}
    {fields : List (String × Value)} (h : readEntries? known entries = some fields)
    {f : String × Value} (hf : f ∈ fields) : ∃ key, (key, f.2) ∈ entries := by
  induction entries generalizing fields with
  | nil => simp [readEntries?] at h; subst h; simp at hf
  | cons e rest ih =>
    obtain ⟨key, v⟩ := e
    simp only [readEntries?, Option.bind_eq_bind, Option.bind_eq_some_iff] at h
    obtain ⟨field, -, more, hmore, h⟩ := h
    have hrest : f ∈ more → ∃ k, (k, f.2) ∈ (key, v) :: rest := fun hm =>
      let ⟨k, hk⟩ := ih hmore hm
      ⟨k, List.mem_cons_of_mem _ hk⟩
    cases field with
    | none =>
      simp only [Option.some.injEq] at h
      subst h
      exact hrest hf
    | some name =>
      simp only at h
      split at h
      · simp at h
      · simp only [Option.some.injEq] at h
        subst h
        rcases List.mem_cons.mp hf with rfl | hm
        · exact ⟨key, by simp⟩
        · exact hrest hm

theorem sizeOf_lt_of_field {known : List String} {v w : Value} {fields : List (String × Value)}
    {name : String} (h : v.fields? known = some fields) (hw : field? fields name = some w) :
    sizeOf w < sizeOf v := by
  have hm := mem_of_field? hw
  cases v with
  | record entries =>
    obtain ⟨key, hk⟩ := mem_of_readEntries? h hm
    have := List.sizeOf_lt_of_mem hk
    simp only [Prod.mk.sizeOf_spec, record.sizeOf_spec] at *
    omega
  | list items =>
    simp only [fields?] at h
    split at h
    · simp only [Option.some.injEq] at h
      subst h
      have := List.sizeOf_lt_of_mem (List.of_mem_zip hm).2
      simp only [list.sizeOf_spec]
      omega
    · simp at h
  | scalar s =>
    simp only [fields?] at h
    split at h
    · simp only [Option.some.injEq] at h
      subst h
      simp at hm
    · simp at h
  | _ => simp [fields?] at h

private theorem sizeOf_filter_le {α : Type} [SizeOf α] (p : α → Bool) (l : List α) :
    sizeOf (l.filter p) ≤ sizeOf l := by
  induction l with
  | nil => simp
  | cons a rest ih =>
    rw [List.filter_cons]
    split <;> simp only [List.cons.sizeOf_spec] <;> omega

theorem sizeOf_lt_of_tagged {name : String} {v t rest : Value}
    (h : v.tagged? name = some (t, rest)) : sizeOf rest ≤ sizeOf v := by
  cases v with
  | record entries =>
    simp only [tagged?, splitName, List.partition_eq_filter_filter] at h
    split at h
    · next k w more heq =>
      simp only [Prod.mk.injEq, Option.some.injEq] at heq h
      obtain ⟨-, rfl⟩ := h
      rw [← heq.2]
      have := sizeOf_filter_le (Bool.not ∘ fun e : Key × Value => e.1 == .name name) entries
      simp only [record.sizeOf_spec]
      omega
    · simp at h
  | list items =>
    cases items with
    | nil => simp [tagged?] at h
    | cons w more =>
      simp only [tagged?, Option.some.injEq, Prod.mk.injEq] at h
      obtain ⟨-, rfl⟩ := h
      simp only [list.sizeOf_spec, List.cons.sizeOf_spec]
      omega
  | _ => simp [tagged?] at h

end Value

end Companion
