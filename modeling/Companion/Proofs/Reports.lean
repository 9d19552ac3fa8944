import Companion.Report
import Companion.Proofs.CacheRun
import Companion.Proofs.Extraction

/-!
# Runs over many subjects

A run threads a cache from each subject to the next, and a cache comes from earlier runs, under any
options. None of it can be seen in a report:

> **each subject has the entry that it would have on its own** (`generateSubjects_after_runs`),

in the list that its fate says, and every list in the order of the subjects. So a report of subjects
that follow others is theirs behind the others', and a subject that gets no source changes nobody's.

A run is a sequence of requests to the cache, whose answers are sorted into a report afterwards
(`generateSubjects_eq_answers`). The cache is in the answers, the order in the sorting, and neither
knows of the other.
-/

namespace Companion

/-! ## Sorting outcomes -/

namespace Outcome

def source? : Outcome → Option GeneratedSource
  | .source s => some s
  | _ => none

def diagnostic? : Outcome → Option Diagnostic
  | .diagnostic d => some d
  | _ => none

def skipped? : Outcome → Option String
  | .skipped subject _ => some subject
  | _ => none

end Outcome

namespace Report

/-- The outcomes, each in the list of its kind. -/
def ofOutcomes (outcomes : List Outcome) : Report where
  sources := outcomes.filterMap Outcome.source?
  diagnostics := outcomes.filterMap Outcome.diagnostic?
  skipped := outcomes.filterMap Outcome.skipped?

/-- The entries of one report and behind them those of another, list by list. -/
def append (r r' : Report) : Report where
  sources := r.sources ++ r'.sources
  diagnostics := r.diagnostics ++ r'.diagnostics
  skipped := r.skipped ++ r'.skipped

theorem ofOutcomes_append (a b : List Outcome) :
    ofOutcomes (a ++ b) = (ofOutcomes a).append (ofOutcomes b) := by
  simp [ofOutcomes, append]

theorem foldl_add (outcomes : List Outcome) (r : Report) :
    outcomes.foldl add r = r.append (ofOutcomes outcomes) := by
  induction outcomes generalizing r with
  | nil => simp [ofOutcomes, append]
  | cons outcome rest ih =>
    rw [List.foldl_cons, ih]
    cases outcome <;>
      simp [ofOutcomes, append, add, List.filterMap_cons, Outcome.source?, Outcome.diagnostic?,
        Outcome.skipped?]

/-- The subjects have their entries in the report: each its own outcome, in the list that its fate
    says, and in the order of the subjects. -/
structure Sorts (o : Options) (subjects : List SubjectDecl) (r : Report) : Prop where
  sources : r.sources.map .source
    = (subjects.filter (·.fate = .sourced)).map (·.model.generate o)
  diagnostics : r.diagnostics.map .diagnostic
    = (subjects.filter (·.fate = .reported)).map (·.model.generate o)
  skipped : r.skipped = (subjects.filter (·.fate = .passedOver)).map (·.reference)
  /-- Of a subject that is passed over, a report only has the reference. -/
  passedOver : ∀ s ∈ subjects, s.fate = .passedOver →
    s.model.generate o = .skipped s.reference s.kind

/-- Outcomes of subjects are sorted. The induction is on the subjects, one case for each fate of the
    first of them. -/
theorem sorts_ofOutcomes (o : Options) (subjects : List SubjectDecl) :
    Sorts o subjects (ofOutcomes (subjects.map (·.model.generate o))) := by
  induction subjects with
  | nil => exact ⟨rfl, rfl, rfl, by simp⟩
  | cons s rest ih =>
    have hpassedOver : ∀ t ∈ s :: rest, t.fate = .passedOver →
        t.model.generate o = .skipped t.reference t.kind :=
      fun t _ ht => SubjectDecl.generate_of_passedOver ht o
    obtain ⟨hsources, hdiagnostics, hskipped, -⟩ := ih
    simp only [ofOutcomes] at hsources hdiagnostics hskipped
    cases hs : s.fate with
    | sourced =>
      have hgenerate := SubjectDecl.generate_of_sourced hs o
      refine ⟨?_, ?_, ?_, hpassedOver⟩ <;>
        simp [ofOutcomes, List.filterMap_cons, Outcome.source?, Outcome.diagnostic?,
          Outcome.skipped?, -List.filterMap_map, *]
    | reported =>
      have hgenerate := SubjectDecl.generate_of_reported hs o
      refine ⟨?_, ?_, ?_, hpassedOver⟩ <;>
        simp [ofOutcomes, List.filterMap_cons, Outcome.source?, Outcome.diagnostic?,
          Outcome.skipped?, -List.filterMap_map, *]
    | passedOver =>
      have hgenerate := SubjectDecl.generate_of_passedOver hs o
      refine ⟨?_, ?_, ?_, hpassedOver⟩ <;>
        simp [ofOutcomes, List.filterMap_cons, Outcome.source?, Outcome.diagnostic?,
          Outcome.skipped?, -List.filterMap_map, *]

section

variable {o : Options} {subjects subjects' : List SubjectDecl} {r r' : Report}

/-- A list of a report depends on the subjects of its fate alone. -/
theorem Sorts.sources_eq (h : Sorts o subjects r) (h' : Sorts o subjects' r')
    (hfate : subjects.filter (·.fate = .sourced) = subjects'.filter (·.fate = .sourced)) :
    r.sources = r'.sources := by
  refine List.map_injective_iff.mpr (fun _ _ => Outcome.source.inj) ?_
  rw [h.sources, h'.sources, hfate]

theorem Sorts.diagnostics_eq (h : Sorts o subjects r) (h' : Sorts o subjects' r')
    (hfate : subjects.filter (·.fate = .reported) = subjects'.filter (·.fate = .reported)) :
    r.diagnostics = r'.diagnostics := by
  refine List.map_injective_iff.mpr (fun _ _ => Outcome.diagnostic.inj) ?_
  rw [h.diagnostics, h'.diagnostics, hfate]

theorem Sorts.skipped_eq (h : Sorts o subjects r) (h' : Sorts o subjects' r')
    (hfate : subjects.filter (·.fate = .passedOver) = subjects'.filter (·.fate = .passedOver)) :
    r.skipped = r'.skipped := by
  rw [h.skipped, h'.skipped, hfate]

end

end Report

/-! ## Runs -/

/-- Subjects that are generated together. -/
structure Run where
  options : Options
  subjects : List SubjectDecl

def Run.requests (r : Run) : List Request :=
  r.subjects.map fun s => (s.model, r.options)

/-- A run asks its cache for each subject in turn, and sorts the answers. -/
theorem generateSubjects_eq_answers (o : Options) (subjects : List SubjectDecl) (r : Report)
    (c : Cache) :
    generateSubjects o subjects r c
      = ((c.answers (Run.mk o subjects).requests).1.foldl Report.add r,
        (c.answers (Run.mk o subjects).requests).2) := by
  induction subjects generalizing r c with
  | nil => rfl
  | cons s rest ih =>
    rw [generateSubjects, Run.requests, List.map_cons, Cache.answers_cons, List.foldl_cons]
    exact ih _ _

namespace Cache

theorem answers_append (c : Cache) (a b : List Request) :
    c.answers (a ++ b)
      = ((c.answers a).1 ++ ((c.answers a).2.answers b).1, ((c.answers a).2.answers b).2) := by
  induction a generalizing c with
  | nil => rfl
  | cons r rest ih =>
    rw [List.cons_append, answers_cons, ih, answers_cons]
    rfl

/-- The cache after runs, one after another, the first of them with a new cache. -/
def afterRuns (runs : List Run) : Cache :=
  runs.foldl (fun c r => (generateSubjects r.options r.subjects {} c).2) {}

theorem afterRuns_eq_answers (runs : List Run) :
    afterRuns runs = (answers {} (runs.flatMap Run.requests)).2 := by
  induction runs using List.reverseRecOn with
  | nil => rfl
  | append_singleton runs r ih =>
    rw [afterRuns, List.foldl_append, List.foldl_cons, List.foldl_nil, ← afterRuns, ih,
      generateSubjects_eq_answers, List.flatMap_append, answers_append, List.flatMap_singleton]

end Cache

/-- What a run reports if earlier runs left it their cache. -/
def reportAfter (earlier : List Run) (o : Options) (subjects : List SubjectDecl) : Report :=
  (generateSubjects o subjects {} (Cache.afterRuns earlier)).1

theorem reportAfter_eq_ofOutcomes {earlier : List Run} {o : Options} {subjects : List SubjectDecl}
    (h : Sha256.CollisionFree
      ((earlier.flatMap Run.requests ++ (Run.mk o subjects).requests).map Request.message)) :
    reportAfter earlier o subjects = .ofOutcomes (subjects.map (·.model.generate o)) := by
  obtain ⟨-, -, seen, hseen, hmem⟩ :=
    Cache.remembers_empty.answers (earlier.flatMap Run.requests)
      (h.mono fun r hr => List.mem_append_left _ (by simpa using hr))
  obtain ⟨hanswers, -⟩ := hseen.answers (Run.mk o subjects).requests (h.mono fun r hr => by
    simpa [hmem] using hr)
  rw [reportAfter, generateSubjects_eq_answers, Cache.afterRuns_eq_answers, hanswers,
    Report.foldl_add, Run.requests, List.map_map]
  simp [Report.append, Report.ofOutcomes, Function.comp_def, Request.outcome]

/-- A run with a new cache reports what generation gives for each subject. -/
theorem generateSubjects_eq_ofOutcomes {o : Options} {subjects : List SubjectDecl}
    (h : Sha256.CollisionFree ((Run.mk o subjects).requests.map Request.message)) :
    (generateSubjects o subjects {} {}).1 = .ofOutcomes (subjects.map (·.model.generate o)) := by
  have hnew : Sha256.CollisionFree
      ((([] : List Run).flatMap Run.requests ++ (Run.mk o subjects).requests).map Request.message) := by
    simpa using h
  exact reportAfter_eq_ofOutcomes hnew

/-- **A run gives each subject what it gets on its own**, whatever earlier runs left in the cache, and
    sorts it by its fate. Runs one behind the other report one behind the other. Each list of a report
    is that of any part of the subjects that has all subjects of its fate: the others change nothing
    in it. -/
theorem generateSubjects_after_runs {earlier : List Run} {o : Options} {xs ys : List SubjectDecl}
    (h : Sha256.CollisionFree
      ((earlier.flatMap Run.requests ++ (Run.mk o (xs ++ ys)).requests).map Request.message)) :
    Report.Sorts o (xs ++ ys) (reportAfter earlier o (xs ++ ys))
      ∧ reportAfter earlier o (xs ++ ys)
        = (reportAfter earlier o xs).append (reportAfter earlier o ys)
      ∧ ∀ part, part.Sublist (xs ++ ys) →
        (part.filter (·.fate = .sourced) = (xs ++ ys).filter (·.fate = .sourced) →
          (reportAfter earlier o part).sources = (reportAfter earlier o (xs ++ ys)).sources)
        ∧ (part.filter (·.fate = .reported) = (xs ++ ys).filter (·.fate = .reported) →
          (reportAfter earlier o part).diagnostics
            = (reportAfter earlier o (xs ++ ys)).diagnostics)
        ∧ (part.filter (·.fate = .passedOver) = (xs ++ ys).filter (·.fate = .passedOver) →
          (reportAfter earlier o part).skipped = (reportAfter earlier o (xs ++ ys)).skipped) := by
  -- No collision among all the requests means none among those for a part of the subjects.
  have hreport : ∀ part, part.Sublist (xs ++ ys) →
      reportAfter earlier o part = .ofOutcomes (part.map (·.model.generate o)) := by
    intro part hpart
    refine reportAfter_eq_ofOutcomes (h.mono fun r hr => ?_)
    rcases List.mem_append.mp hr with hr | hr
    · exact List.mem_append_left _ hr
    · exact List.mem_append_right _ ((hpart.map _).subset hr)
  rw [hreport (xs ++ ys) (.refl _), hreport xs (List.sublist_append_left xs ys),
    hreport ys (List.sublist_append_right xs ys)]
  refine ⟨Report.sorts_ofOutcomes o (xs ++ ys), ?_, fun part hpart => ?_⟩
  · rw [List.map_append, Report.ofOutcomes_append]
  · have hpart' := Report.sorts_ofOutcomes o part
    have hall := Report.sorts_ofOutcomes o (xs ++ ys)
    rw [hreport part hpart]
    exact ⟨hpart'.sources_eq hall, hpart'.diagnostics_eq hall, hpart'.skipped_eq hall⟩

/-- A class, and a static struct in front of it. -/
def helperAndUser : List SubjectDecl :=
  [{ SubjectDecl.ofName "Helper" none with kind := .structType, isStatic := true },
    .ofName "User" none]

/-- The class was generated before, in a run of its own. -/
theorem generateSubjects_helperAndUser :
    letI earlier : List Run := [⟨{}, helperAndUser.drop 1⟩]
    Sha256.CollisionFree
        ((earlier.flatMap Run.requests ++ (Run.mk {} helperAndUser).requests).map Request.message)
      ∧ Report.Sorts {} helperAndUser (reportAfter earlier {} helperAndUser)
      ∧ reportAfter earlier {} helperAndUser
        = (reportAfter earlier {} (helperAndUser.take 1)).append
          (reportAfter earlier {} (helperAndUser.drop 1))
      ∧ (reportAfter earlier {} (helperAndUser.drop 1)).sources
        = (reportAfter earlier {} helperAndUser).sources := by
  have hfree : Sha256.CollisionFree
      (([⟨{}, helperAndUser.drop 1⟩].flatMap Run.requests
        ++ (Run.mk {} helperAndUser).requests).map Request.message) := by
    simp only [helperAndUser, List.drop_succ_cons, List.drop_zero, List.flatMap_singleton,
      Run.requests, List.map_cons, List.map_nil, List.singleton_append, Request.message, digested,
      toUTF8_toList]
    refine Sha256.collisionFree_of_ne ?_
    decide +kernel
  obtain ⟨hsorts, happend, hpart⟩ :=
    @generateSubjects_after_runs _ _ (helperAndUser.take 1) (helperAndUser.drop 1) hfree
  exact ⟨hfree, hsorts, happend,
    (hpart (helperAndUser.drop 1) (List.drop_sublist 1 helperAndUser)).1 rfl⟩

end Companion
