import Companion.Proofs.Command.Analyzing
import Companion.Proofs.FragmentOrder

/-!
# Two ways to find a subject

A name may be the reference of one subject and the simple name of others. Looking it up takes the one
with the reference, and only if there is none the first of that simple name (`Merger.find?`). The
analysing command searches the models instead, and takes the first that has it for either
(`AnalyzeRequest.find?`).

> **Both find the same, unless a subject of that simple name stands before the one with that
> reference** (`lookups_compared`).

Then looking up passes over the namesake, and the search ends at it (`lookups_differ`). A name that
one of them finds nothing for the other finds nothing for either.
-/

namespace Companion

/-- A subject of that simple name stands before the first that has the name for its reference. -/
def Overtaken (subjects : List SubjectDecl) (name : String) : Prop :=
  ∃ before s after, subjects = before ++ s :: after ∧ s.reference = name
    ∧ (∀ s' ∈ before, s'.reference ≠ name) ∧ ∃ s' ∈ before, s'.name = name

/-- Where nobody is named like somebody else's reference, nobody is overtaken. -/
theorem not_overtaken_of_apart {subjects : List SubjectDecl} {name : String}
    (h : ∀ s ∈ subjects, ∀ s' ∈ subjects, s.name = s'.reference → s = s') :
    ¬ Overtaken subjects name := by
  rintro ⟨before, s, after, rfl, hreference, hbefore, s', hs', hname⟩
  have hsame : s' = s := by
    apply h s' (by simp [hs']) s (by simp)
    rw [hname, hreference]
  exact hbefore s' hs' (hsame ▸ hreference)

/-! ## One list, two searches -/

namespace AnalyzeRequest

/-- The subject whose model the search ends at. -/
def searched? (subjects : List SubjectDecl) (name : String) : Option SubjectDecl :=
  subjects.find? fun s => s.name == name || s.reference == name

theorem searched?_append (before after : List SubjectDecl) (name : String) :
    searched? (before ++ after) name = (searched? before name).or (searched? after name) :=
  List.find?_append

theorem find?_models (subjects : List SubjectDecl) (name : String) :
    find? (subjects.map SubjectDecl.model) name
      = (searched? subjects name).map SubjectDecl.model := by
  rw [find?, List.find?_map, searched?]
  congr 2
  funext s
  simp [SubjectDecl.subject_model, SubjectDecl.describe]

end AnalyzeRequest

open AnalyzeRequest (searched? searched?_append)

section

variable {m : Merger} {name : String}

theorem searched?_eq_none_iff : searched? m.subjects name = none ↔ m.find? name = none := by
  simp only [searched?, Merger.find?, Merger.get?, Option.or_eq_none_iff, List.find?_eq_none,
    Bool.or_eq_true, not_or]
  constructor
  · intro h
    exact ⟨fun s hs => (h s hs).2, fun s hs => (h s hs).1⟩
  · intro h s hs
    exact ⟨h.2 s hs, h.1 s hs⟩

/-- Where it is no reference, a name is looked up as it is searched. -/
theorem searched?_of_no_reference (h : ∀ s ∈ m.subjects, s.reference ≠ name) :
    searched? m.subjects name = m.find? name := by
  have hnone : m.get? name = none := by
    simpa [Merger.get?] using h
  rw [Merger.find?, hnone, Option.none_or, searched?]
  apply List.find?_congr
  intro s hs
  simp [h s hs]

theorem searched?_of_not_overtaken (h : ¬ Overtaken m.subjects name) :
    searched? m.subjects name = m.find? name := by
  cases hget : m.get? name with
  | none =>
    apply searched?_of_no_reference
    simpa [Merger.get?] using hget
  | some s =>
    obtain ⟨hs, before, after, hsplit, hbefore⟩ := List.find?_eq_some_iff_append.mp hget
    have hreference : s.reference = name := by simpa using hs
    have hother : ∀ s' ∈ before, s'.reference ≠ name := by simpa using hbefore
    -- Nothing before it has the name for its reference, and nothing has it for its simple name.
    have hnamed : ∀ s' ∈ before, s'.name ≠ name := by
      intro s' hs' hname
      exact h ⟨before, s, after, hsplit, hreference, hother, s', hs', hname⟩
    have hnone : searched? before name = none := by
      rw [searched?, List.find?_eq_none]
      intro s' hs'
      simp [hnamed s' hs', hother s' hs']
    rw [Merger.find?, hget, Option.some_or, hsplit, searched?_append, hnone, Option.none_or]
    simp [searched?, hreference]

/-- What the two find for a name that is overtaken: the namesake, and the one with the reference. -/
theorem exists_of_overtaken (h : Overtaken m.subjects name) :
    ∃ s s', m.find? name = some s ∧ s.reference = name
      ∧ searched? m.subjects name = some s' ∧ s'.name = name ∧ s'.reference ≠ name := by
  obtain ⟨before, s, after, hsplit, hreference, hother, namesake, hnamesake, hname⟩ := h
  have hget : m.get? name = some s := by
    apply List.find?_eq_some_iff_append.mpr
    exact ⟨by simpa using hreference, before, after, hsplit, by simpa using hother⟩
  -- The namesake need not be what the search ends at, but the search does not get past it.
  obtain ⟨s', hs'⟩ : ∃ s', searched? before name = some s' := by
    apply Option.isSome_iff_exists.mp
    rw [searched?, List.find?_isSome]
    exact ⟨namesake, hnamesake, by simp [hname]⟩
  have hmem : s' ∈ before := List.mem_of_find?_eq_some hs'
  have hmeant := List.find?_some hs'
  refine ⟨s, s', by rw [Merger.find?, hget, Option.some_or], hreference, ?_, ?_, hother s' hmem⟩
  · rw [hsplit, searched?_append, hs', Option.some_or]
  · simpa [hother s' hmem] using hmeant

/-- **The search finds what is looked up, unless the name is overtaken.** -/
theorem find?_models_eq_iff :
    AnalyzeRequest.find? (m.subjects.map SubjectDecl.model) name
        = (m.find? name).map SubjectDecl.model
      ↔ ¬ Overtaken m.subjects name := by
  rw [AnalyzeRequest.find?_models]
  constructor
  · intro hsame hovertaken
    obtain ⟨s, s', hfound, hreference, hsearched, -, hother⟩ := exists_of_overtaken hovertaken
    rw [hfound, hsearched, Option.map_some, Option.map_some, Option.some.injEq] at hsame
    -- Models tell the references of their subjects.
    have hreferences := congrArg (·.subject.reference) hsame
    simp only [SubjectDecl.subject_model] at hreferences
    exact hother (hreferences.trans hreference)
  · intro h
    rw [searched?_of_not_overtaken h]

end

/-! ## After any calls -/

namespace Loader

/-- After any calls, each subject is the one that has its reference. -/
theorem get?_of_mem_after [Files Id] {includeDirs : List String} {calls : List Call}
    {s : SubjectDecl} (hs : s ∈ (after { includeDirs } calls).subjects) :
    (after { includeDirs } calls).merger.get? s.reference = some s := by
  obtain ⟨taken, htaken⟩ := exists_takesAll { includeDirs } calls
  have hmerger := Merger.eq_takeAll_of_addAll htaken.merger
  rw [subjects, hmerger] at hs
  rw [hmerger]
  exact Merger.get?_of_mem hs

/-- A manifest in no file that imports nothing is registered, and nothing else is done. -/
theorem exec_text [Files Id] {origin text : String} {manifest : Manifest} {merger : Merger}
    {l : Loader} (hparse : Manifest.parse text = .ok manifest) (himports : manifest.imports = [])
    (hmerged : l.merger.addAll manifest.subjects = (.ok (), merger)) :
    (Call.text origin text).run.exec l
      = (.ok (), { l with merger, manifests := l.manifests ++ [manifest] }) := by
  simp [Call.run, loadText, Loading.exec_bind, exec_parse, hparse, Except.mapError, himports,
    exec_register, hmerged]

end Loader

/-- What the analysing command would show for a name if it looked the name up. -/
def AnalyzeRequest.lookedUp (l : Loader) (o : Options) (name : String) : Except CommandError String :=
  match l.merger.find? name with
  | none => .error (.unknownSubject name)
  | some s => .ok (preview (s.model.generate o))

theorem AnalyzeRequest.companion_of_not_overtaken {r : AnalyzeRequest} {l : Loader} {o : Options}
    {name : String} (hname : r.printProxy = some name) (h : ¬ Overtaken l.subjects name) :
    r.companion (l.subjects.map SubjectDecl.model) o = lookedUp l o name := by
  have hfind : find? (l.subjects.map SubjectDecl.model) name
      = (l.merger.find? name).map SubjectDecl.model := find?_models_eq_iff.mpr h
  simp only [companion, hname, hfind, lookedUp]
  cases l.merger.find? name with
  | none => rfl
  | some s => rfl

open Loader (Call after answers)

/-- **The search of the analysing command and the look-up compared**, whatever was called before. They
    find nothing for the same names. The look-up takes the subject whose reference the name is, if there
    is one. The search finds the same exactly if the name is not overtaken; if it is, the search finds a
    namesake. Nothing is overtaken where nobody is named like somebody else's reference. So the
    companion that the command shows for a name is that of the subject which the look-up takes, unless
    the name is overtaken among the subjects that were loaded. -/
theorem lookups_compared [Files Id] (includeDirs : List String) (calls : List Call) (name : String) :
    letI l := after { includeDirs } calls
    letI found? := AnalyzeRequest.find? (l.subjects.map SubjectDecl.model) name
    (found? = none ↔ l.merger.find? name = none)
      ∧ (∀ s ∈ l.subjects, s.reference = name → l.merger.find? name = some s)
      ∧ (found? = (l.merger.find? name).map SubjectDecl.model ↔ ¬ Overtaken l.subjects name)
      ∧ (Overtaken l.subjects name →
        ∃ s s' : SubjectDecl, l.merger.find? name = some s ∧ s.reference = name
          ∧ found? = some s'.model ∧ s'.name = name ∧ s'.reference ≠ name)
      ∧ ((∀ s ∈ l.subjects, ∀ s' ∈ l.subjects, s.name = s'.reference → s = s') →
        ¬ Overtaken l.subjects name)
      ∧ ∀ (words : List String) (r : AnalyzeRequest) (t : FileTree) (loaded : Loader)
          (config : Option Config) (o : Options),
        Command.ofWords? words = some (.analyze r) → r.printProxy = some name →
        t.load r.files r.includeDirs = .ok loaded →
        t.configuration r.config false = .ok (config, o) →
        ¬ Overtaken loaded.subjects name →
          (runCommandLine words : StateM FileTree CommandResult).run t
            = (.ofSession ((AnalyzeRequest.lookedUp loaded o name).map fun _ => true)
                (r.shown loaded
                  ++ .output ((AnalyzeRequest.lookedUp loaded o name).toOption.getD "")), t) := by
  refine ⟨?_, ?_, find?_models_eq_iff, ?_, not_overtaken_of_apart, ?_⟩
  · rw [AnalyzeRequest.find?_models, Option.map_eq_none_iff]
    exact searched?_eq_none_iff
  · rintro s hs rfl
    rw [Merger.find?, Loader.get?_of_mem_after hs, Option.some_or]
  · intro hovertaken
    obtain ⟨s, s', hfound, hreference, hsearched, hname, hother⟩ := exists_of_overtaken hovertaken
    have hsearch := AnalyzeRequest.find?_models (after { includeDirs } calls).merger.subjects name
    rw [hsearched] at hsearch
    exact ⟨s, s', hfound, hreference, hsearch, hname, hother⟩
  · intro words r t loaded config o hwords hname hloaded hconfigured h
    exact run_analyze hwords hloaded hconfigured
      (AnalyzeRequest.companion_of_not_overtaken hname h)

theorem lookups_compared_pair :
    letI := pairTree.frozen
    letI user : SubjectDecl := { name := "U", reference := "U" }
    letI l := after {} [.text "inline" pairText]
    l.merger.find? "U" = some user
      ∧ AnalyzeRequest.find? (l.subjects.map SubjectDecl.model) "U" = some user.model
      ∧ ∃ loaded, pairTree.load ["a"] [] = .ok loaded
        ∧ (runCommandLine ["analyze", "-f", "a", "--print-proxy", "U"] :
            StateM FileTree CommandResult).run pairTree
          = (.ofSession (.ok true)
              (AnalyzeRequest.shown { files := ["a"], printProxy := some "U" } loaded
                ++ .output (AnalyzeRequest.preview (user.model.generate {}))), pairTree) := by
  let files := pairTree.frozen
  have hsubjects : (after {} [.text "inline" pairText]).subjects = pairSubjects := by
    have hmerged : ({} : Merger).addAll pairSubjects = (.ok (), { subjects := pairSubjects }) := by
      rfl
    rw [after, after, Loader.exec_text parse_pairText rfl hmerged]
    rfl
  have hapart : ∀ s ∈ pairSubjects, ∀ s' ∈ pairSubjects, s.name = s'.reference → s = s' := by
    simp [pairSubjects]
  obtain ⟨-, htaken, hsame, -, hnotOvertaken, hshown⟩ :=
    lookups_compared [] [.text "inline" pairText] "U"
  rw [hsubjects] at htaken hsame hnotOvertaken
  have hfound := htaken { name := "U", reference := "U" } List.mem_cons_self rfl
  have hsearched := hsame.mpr (hnotOvertaken hapart)
  rw [hfound] at hsearched
  have hrun := hshown ["analyze", "-f", "a", "--print-proxy", "U"]
    { files := ["a"], printProxy := some "U" } pairTree pairLoader none {} rfl rfl load_pairTree
    (by decide +kernel) (hnotOvertaken hapart)
  let user : SubjectDecl := { name := "U", reference := "U" }
  have hlookedUp : AnalyzeRequest.lookedUp pairLoader {} "U"
      = .ok (AnalyzeRequest.preview (user.model.generate {})) := by
    have hmerger : pairLoader.merger.find? "U" = some user := by rfl
    rw [AnalyzeRequest.lookedUp, hmerger]
  rw [hlookedUp] at hrun
  refine ⟨hfound, ?_, pairLoader, load_pairTree, hrun⟩
  rw [hsubjects]
  exact hsearched

/-! ## Namesakes -/

/-- Two classes of one simple name, the second of them in no namespace. -/
def shops : List SubjectDecl :=
  [{ name := "Shop", reference := "A.Shop" }, { name := "Shop", reference := "Shop" }]

/-- The text of a manifest with the two. -/
def shopText : String :=
  "manifest:\n  assembly: A\nsubjects:\n- name: Shop\n  reference: A.Shop\n"
    ++ "- name: Shop\n  reference: Shop\n"

theorem parse_shopText : Manifest.parse shopText = .ok { assembly := "A", subjects := shops } := by
  have htokens : Yaml.tokens shopText
      = [.blockMappingStart, .key, .scalar "manifest" .plain, .value, .blockMappingStart,
        .key, .scalar "assembly" .plain, .value, .scalar "A" .plain, .blockEnd,
        .key, .scalar "subjects" .plain, .value,
        .blockEntry, .blockMappingStart, .key, .scalar "name" .plain, .value, .scalar "Shop" .plain,
        .key, .scalar "reference" .plain, .value, .scalar "A.Shop" .plain, .blockEnd,
        .blockEntry, .blockMappingStart, .key, .scalar "name" .plain, .value, .scalar "Shop" .plain,
        .key, .scalar "reference" .plain, .value, .scalar "Shop" .plain, .blockEnd,
        .blockEnd] := by
    decide +kernel
  rw [Manifest.parse, Yaml.load, htokens]
  cbv

/-- **The two differ where a namesake comes first**: the name is the reference of the second class, which
    the look-up takes, and the search ends at the first. -/
theorem lookups_differ :
    letI := ({} : FileTree).frozen
    letI l := after {} [.text "inline" shopText]
    answers {} [.text "inline" shopText] = [.ok ()]
      ∧ l.merger.find? "Shop" = some { name := "Shop", reference := "Shop" }
      ∧ AnalyzeRequest.find? (l.subjects.map SubjectDecl.model) "Shop"
        = some ({ name := "Shop", reference := "A.Shop" } : SubjectDecl).model
      ∧ AnalyzeRequest.find? (l.subjects.map SubjectDecl.model) "Shop"
        ≠ (l.merger.find? "Shop").map SubjectDecl.model := by
  let files := ({} : FileTree).frozen
  have hmerged : ({} : Merger).addAll shops = (.ok (), { subjects := shops }) := by rfl
  rw [answers, after, after, answers, Loader.exec_text parse_shopText rfl hmerged]
  refine ⟨rfl, rfl, rfl, ?_⟩
  intro hsame
  have hreferences := congrArg (Option.map (·.subject.reference)) hsame
  exact absurd hreferences (by decide)

end Companion
