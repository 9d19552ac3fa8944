import Companion.Proofs.Source.Scopes
import Mathlib.Data.List.Perm.Subperm
import Mathlib.Data.Nat.Find

/-!
# The receiver among the parameters

An accessor takes the subject in front of the member's own parameters, and those have names that the
subject chose. The receiver is named `target` with as many underscores behind it as it takes until no
parameter has that name. Looking for it needs no bound of its own:

> **of one name more than there are parameters, one is free** (`exists_lengthened_not_mem`),

so the search ends where it would without a bound (`freshName_eq_lengthened`).

What is found differs from the parameters' names, and in the binding these are escaped. An `@` in
front of a keyword cannot bring a name back to the receiver, nor two names together, as long as none
of them begins with an `@` itself: the names still differ by what they spell.
-/

namespace Companion.Source

open Identifier (denoted escaped)

/-! ## Names with underscores behind them -/

/-- The name with so many underscores behind it. -/
def lengthened (name : String) (more : Nat) : String :=
  name ++ String.ofList (List.replicate more '_')

@[simp] theorem lengthened_zero (name : String) : lengthened name 0 = name := by
  simp [lengthened]

theorem lengthened_succ (name : String) (more : Nat) :
    lengthened name (more + 1) = lengthened (name ++ "_") more := by
  rw [lengthened, lengthened, ← String.toList_inj]
  simp [List.replicate_succ]

theorem lengthened_inj {name : String} {more more' : Nat}
    (h : lengthened name more = lengthened name more') : more = more' := by
  have hlength := congrArg (·.toList.length) h
  simpa [lengthened] using hlength

/-- Of one name more than are taken, one is free. -/
theorem exists_lengthened_not_mem (taken : List String) (name : String) :
    ∃ more ≤ taken.length, lengthened name more ∉ taken := by
  by_contra! hall
  have hnodup : ((List.range (taken.length + 1)).map (lengthened name)).Nodup :=
    List.nodup_range.map fun _ _ => lengthened_inj
  have hsubset : (List.range (taken.length + 1)).map (lengthened name) ⊆ taken := by
    intro candidate hcandidate
    obtain ⟨more, hmore, rfl⟩ := List.mem_map.mp hcandidate
    exact hall more (Nat.le_of_lt_succ (List.mem_range.mp hmore))
  have hlength := (List.subperm_of_subset hnodup hsubset).length_le
  rw [List.length_map, List.length_range] at hlength
  exact Nat.not_succ_le_self _ hlength

/-- What is looked for: the fewest underscores that no taken name has. There are such, and no more
    of them than there are taken names. -/
theorem exists_fewest (taken : List String) (name : String) :
    ∃ fewest ≤ taken.length, lengthened name fewest ∉ taken
      ∧ ∀ fewer < fewest, lengthened name fewer ∈ taken := by
  have hfree : ∃ more, lengthened name more ∉ taken :=
    (exists_lengthened_not_mem taken name).imp fun _ h => h.2
  obtain ⟨more, hmore, hnew⟩ := exists_lengthened_not_mem taken name
  refine ⟨Nat.find hfree, Nat.le_trans (Nat.find_min' hfree hnew) hmore, Nat.find_spec hfree, ?_⟩
  exact fun fewer hfewer => not_not.mp (Nat.find_min hfree hfewer)

/-- **The search goes on to the fewest underscores**, or as far as it is allowed to. -/
theorem freshName_eq_lengthened {taken : List String} {name : String} {fewest : Nat}
    (hnew : lengthened name fewest ∉ taken)
    (htaken : ∀ fewer < fewest, lengthened name fewer ∈ taken) (steps : Nat) :
    freshName taken steps name = lengthened name (min steps fewest) := by
  induction steps generalizing name fewest with
  | zero => simp [freshName]
  | succ steps ih =>
    rw [freshName]
    cases fewest with
    | zero =>
      rw [lengthened_zero] at hnew
      rw [if_neg hnew, Nat.min_zero, lengthened_zero]
    | succ fewest =>
      have hname : name ∈ taken := by simpa using htaken 0 (Nat.succ_pos fewest)
      rw [if_pos hname, Nat.succ_min_succ, lengthened_succ]
      -- One underscore is on the name by now, so there is one less to come.
      rw [lengthened_succ] at hnew
      refine ih hnew fun fewer hfewer => ?_
      rw [← lengthened_succ]
      exact htaken (fewer + 1) (Nat.succ_lt_succ hfewer)

/-! ## Names in the binding -/

def Entity.isParameter : Entity → Bool
  | .receiver | .parameter _ => true
  | _ => false

@[simp] theorem Entity.isParameter_accessor : Entity.isParameter .accessor = false := rfl

@[simp] theorem Entity.isParameter_receiver : Entity.isParameter .receiver = true := rfl

@[simp] theorem Entity.isParameter_parameter (name : String) :
    (Entity.parameter name).isParameter = true := rfl

@[simp] theorem Entity.isParameter_typeParameter (name : String) :
    (Entity.typeParameter name).isParameter = false := rfl

/-- The names of the accessor's parameters, as the binding spells them. -/
def bindingNames (targetType : String) (m : MethodDescriptor) : List String :=
  ((names (methodAccessorPieces targetType m)).filter (·.1.isParameter)).map (·.2)

/-- The binding names the receiver, and then the parameters as they are escaped. -/
theorem bindingNames_eq (targetType : String) (m : MethodDescriptor) :
    bindingNames targetType m
      = receiverName m.parameters :: m.parameters.map (fun p => escaped p.name) := by
  have htypes : names (typeParameterPieces .declares m.typeParameters)
      = m.typeParameters.map fun p => (.typeParameter p.name, p.name) :=
    filterMap_typeParameterPieces (f := Piece.name?) (fun _ => rfl) (fun _ => rfl) _
  have hclauses : (names (m.typeParameters.flatMap constraintPieces)).filter (·.1.isParameter)
      = [] := by
    refine List.filter_eq_nil_iff.mpr fun n hn => ?_
    obtain ⟨p, -, rfl⟩ := mem_names_constraintPieces hn
    simp
  have hparameters : (m.parameters.map parameterPieces).flatMap names
      = m.parameters.map fun p => (.parameter p.name, escaped p.name) := by
    simp only [List.flatMap_map, names_parameterPieces]
    exact List.map_eq_flatMap.symm
  simp only [bindingNames, methodAccessorPieces, signaturePieces, names_append, names_commas,
    List.flatMap_cons, htypes, hparameters, List.filter_append, hclauses]
  simp [List.filter_cons, List.filter_map, Function.comp_def]

/-- The receiver is no name that begins with an `@`, whatever was put behind it. -/
theorem denoted_lengthened_target (more : Nat) :
    denoted (lengthened "target" more) = lengthened "target" more :=
  Identifier.denoted_of_head (by simp [lengthened])

/-- What the binding's parameters spell is the receiver and the parameters' own names. -/
theorem map_denoted_bindingNames (targetType : String) {m : MethodDescriptor} {more : Nat}
    (hreceiver : receiverName m.parameters = lengthened "target" more)
    (hplain : ∀ p ∈ m.parameters, p.name.toList.head? ≠ some '@') :
    (bindingNames targetType m).map denoted
      = receiverName m.parameters :: m.parameters.map (·.name) := by
  rw [bindingNames_eq, List.map_cons, hreceiver, denoted_lengthened_target, List.map_map]
  congr 1
  refine List.map_congr_left fun p hp => ?_
  rw [Function.comp_apply, Identifier.denoted_escaped, Identifier.denoted_of_head (hplain p hp)]

/-- **The receiver is found and is fresh.** It is `target` with the fewest underscores that set it
    apart from all parameters. There are no more of them than there are parameters, and a longer search
    would not have found another. In the binding it stands in front of the escaped parameters; if
    these have different names, none with an `@` in front, then no two names there are alike, and no
    two spell the same. -/
theorem receiver_fresh (targetType : String) (m : MethodDescriptor) :
    ∃ fewest ≤ m.parameters.length,
      receiverName m.parameters = lengthened "target" fewest
        ∧ (∀ p ∈ m.parameters, p.name ≠ receiverName m.parameters)
        ∧ (∀ fewer < fewest, ∃ p ∈ m.parameters, p.name = lengthened "target" fewer)
        ∧ (∀ steps, freshName (m.parameters.map (·.name)) steps "target"
          = lengthened "target" (min steps fewest))
        ∧ unmarked (methodAccessorPieces targetType m)
          = "extern static " ++ (methodAccessor targetType m).text
        ∧ bindingNames targetType m
          = receiverName m.parameters :: m.parameters.map (fun p => escaped p.name)
        ∧ ((m.parameters.map (·.name)).Nodup →
          (∀ p ∈ m.parameters, p.name.toList.head? ≠ some '@') →
          (bindingNames targetType m).Nodup ∧ ((bindingNames targetType m).map denoted).Nodup) := by
  obtain ⟨fewest, hfewest, hnew, htaken⟩ := exists_fewest (m.parameters.map (·.name)) "target"
  have hsearch := freshName_eq_lengthened hnew htaken
  rw [List.length_map] at hfewest
  have hreceiver : receiverName m.parameters = lengthened "target" fewest := by
    rw [receiverName, hsearch, Nat.min_eq_right hfewest]
  rw [← hreceiver] at hnew
  refine ⟨fewest, hfewest, hreceiver, ?_, ?_, hsearch, ?_, bindingNames_eq targetType m, ?_⟩
  · exact fun p hp hname => hnew (List.mem_map.mpr ⟨p, hp, hname⟩)
  · exact fun fewer hfewer => List.mem_map.mp (htaken fewer hfewer)
  · exact unmarked_methodAccessorPieces targetType m
  · intro hnodup hplain
    have hdenoted : ((bindingNames targetType m).map denoted).Nodup := by
      rw [map_denoted_bindingNames targetType hreceiver hplain]
      exact List.nodup_cons.mpr ⟨hnew, hnodup⟩
    exact ⟨.of_map _ hdenoted, hdenoted⟩

/-- A method whose parameters have the first two names that the receiver could have, and one of them a
    keyword for its name. -/
theorem receiver_fresh_attach :
    let attach : MethodDescriptor :=
      { name := "Attach", returnType := "void", modifiers := {}, typeParameters := []
        parameters :=
          [{ name := "target_", typeName := "Hook", passing := .byValue },
            { name := "event", typeName := "Hook", passing := .byRef },
            { name := "target", typeName := "Hook", passing := .byValue }] }
    receiverName attach.parameters = "target__"
      ∧ bindingNames "Rope" attach = ["target__", "target_", "@event", "target"]
      ∧ (bindingNames "Rope" attach).Nodup := by
  intro attach
  obtain ⟨fewest, -, -, -, -, -, -, hnames, hnodup⟩ := receiver_fresh "Rope" attach
  have hreceiver : receiverName attach.parameters = "target__" := by decide +kernel
  refine ⟨hreceiver, ?_, (hnodup (by decide +kernel) (by decide +kernel)).1⟩
  rw [hnames, hreceiver]
  decide +kernel

end Companion.Source
