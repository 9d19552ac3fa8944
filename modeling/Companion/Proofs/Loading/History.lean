import Companion.Proofs.Files.Frozen
import Companion.Proofs.Loading.Run
import Mathlib

/-!
# Loaders after any calls

A loader is called again and again, and some of the calls fail. This file says what its merged
subjects are made of after *any* calls: the subjects of the registered manifests, in that order, and
what was left over from manifests that were refused.

**A manifest that is refused leaves something behind.** Its subjects are merged one after another
while it is being registered, and those in front of the one that does not fit stay merged. No other
failure leaves a subject behind, so the merged subjects are those of the registered manifests as
long as no call was answered with a mismatch.

What a step takes in (`Takes`) composes along steps, so it is proved of the smallest steps and then
of everything that is made of them.
-/

namespace Companion

namespace Merger

theorem addAll_append {m next : Merger} {a : List SubjectDecl} (h : m.addAll a = (.ok (), next))
    (b : List SubjectDecl) : m.addAll (a ++ b) = next.addAll b := by
  induction a generalizing m with
  | nil =>
    obtain rfl : m = next := congrArg Prod.snd h
    rfl
  | cons s rest ih =>
    rw [addAll_cons] at h
    rw [List.cons_append, addAll_cons]
    cases hadd : m.add s with
    | error e =>
      rw [hadd] at h
      exact absurd (congrArg Prod.fst h) (by simp)
    | ok between =>
      rw [hadd] at h
      exact ih h

/-- Where merging ends early, everything in front of the refused fragment was taken in. -/
theorem addAll_eq_error {m next : Merger} {subjects : List SubjectDecl} {e : FragmentMismatch}
    (h : m.addAll subjects = (.error e, next)) :
    ∃ merged refused rest, subjects = merged ++ refused :: rest
      ∧ m.addAll merged = (.ok (), next) ∧ next.add refused = .error e := by
  induction subjects generalizing m with
  | nil => exact absurd (congrArg Prod.fst h) (by simp [addAll])
  | cons s rest ih =>
    rw [addAll_cons] at h
    cases hadd : m.add s with
    | error e' =>
      rw [hadd] at h
      obtain ⟨he, rfl⟩ := Prod.mk.inj h
      obtain rfl := Except.error.inj he
      exact ⟨[], s, rest, rfl, rfl, hadd⟩
    | ok between =>
      rw [hadd] at h
      obtain ⟨merged, refused, more, rfl, hmerged, hrefused⟩ := ih h
      refine ⟨s :: merged, refused, more, rfl, ?_, hrefused⟩
      rw [addAll_cons, hadd]
      exact hmerged

end Merger

namespace Loader

open Loading

/-! ## What a step takes in -/

/-- What a step of loading takes in: the manifests that it registers, and behind them what is left
    over from one that is refused. -/
structure Taken where
  registered : List Manifest := []
  leftover : List SubjectDecl := []

def Taken.subjects (t : Taken) : List SubjectDecl :=
  t.registered.flatMap (·.subjects) ++ t.leftover

/-- A step with its outcome takes that in. There are leftovers only where the outcome is a mismatch:
    they are the subjects of a manifest that was read, up to the one that was refused. -/
structure Takes {α : Type} (l : Loader) (result : Except LoadError α × Loader) (t : Taken) :
    Prop where
  met : ∀ f ∈ l.met, f ∈ result.2.met
  manifests : result.2.manifests = l.manifests ++ t.registered
  merger : l.merger.addAll t.subjects = (.ok (), result.2.merger)
  leftover : t.leftover = [] ∨ ∃ e text manifest refused rest,
    Manifest.parse text = .ok manifest ∧ manifest.subjects = t.leftover ++ refused :: rest
      ∧ result.2.merger.add refused = .error e ∧ result.1 = .error (.mismatch e)

/-- Whatever is loaded before, the step takes something in. -/
def Traced {α : Type} (x : Loading Id α) : Prop :=
  ∀ l, ∃ t, Takes l (x.exec l) t

section

variable {α β : Type}

theorem takes_nothing (l : Loader) (outcome : Except LoadError α) : Takes l (outcome, l) {} where
  met := fun _ hf => hf
  manifests := (List.append_nil _).symm
  merger := rfl
  leftover := .inl rfl

theorem Takes.leftover_eq_nil {l l' : Loader} {a : α} {t : Taken} (h : Takes l (.ok a, l') t) :
    t.leftover = [] := by
  rcases h.leftover with hnil | ⟨e, -, -, -, -, -, -, -, houtcome⟩
  · exact hnil
  · exact absurd houtcome (by simp)

/-- A step behind one that succeeded: what they take in stands one behind the other. -/
theorem Takes.trans {l between : Loader} {a : α} {result : Except LoadError β × Loader}
    {t t' : Taken} (h : Takes l (.ok a, between) t) (h' : Takes between result t') :
    Takes l result ⟨t.registered ++ t'.registered, t'.leftover⟩ where
  met := fun f hf => h'.met f (h.met f hf)
  manifests := by rw [h'.manifests, h.manifests, List.append_assoc]
  merger := by
    have hsubjects : Taken.subjects ⟨t.registered ++ t'.registered, t'.leftover⟩
        = t.subjects ++ t'.subjects := by
      simp [Taken.subjects, h.leftover_eq_nil]
    rw [hsubjects, Merger.addAll_append h.merger, h'.merger]
  leftover := h'.leftover

theorem traced_of_exec {x : Loading Id α} (h : ∀ l, (x.exec l).2 = l) : Traced x := by
  intro l
  refine ⟨{}, ?_⟩
  have hexec : x.exec l = ((x.exec l).1, l) := Prod.ext rfl (h l)
  rw [hexec]
  exact takes_nothing l _

theorem Traced.bind {x : Loading Id α} {f : α → Loading Id β} (hx : Traced x)
    (hf : ∀ a l l', x.exec l = (.ok a, l') → Traced (f a)) : Traced (x >>= f) := by
  intro l
  obtain ⟨t, ht⟩ := hx l
  rw [exec_bind]
  cases hexec : x.exec l with
  | mk outcome between =>
    rw [hexec] at ht
    cases outcome with
    | error e => exact ⟨t, ht.met, ht.manifests, ht.merger, by simpa using ht.leftover⟩
    | ok a =>
      obtain ⟨t', ht'⟩ := hf a l between hexec between
      exact ⟨_, ht.trans ht'⟩

end

theorem traced_register {text : String} {manifest : Manifest}
    (h : Manifest.parse text = .ok manifest) : Traced (register manifest : Loading Id Unit) := by
  intro l
  rw [exec_register]
  cases hadd : l.merger.addAll manifest.subjects with
  | mk outcome merger =>
    cases outcome with
    | ok _ =>
      refine ⟨{ registered := [manifest] }, fun _ hf => hf, rfl, ?_, .inl rfl⟩
      simpa [Taken.subjects] using hadd
    | error e =>
      obtain ⟨merged, refused, rest, hsubjects, hmerged, hrefused⟩ := Merger.addAll_eq_error hadd
      exact ⟨{ leftover := merged }, fun _ hf => hf, (List.append_nil _).symm, hmerged,
        .inr ⟨e, text, manifest, refused, rest, h, hsubjects, hrefused, rfl⟩⟩

theorem compositional_traced : Compositional Traced where
  still := traced_of_exec
  register := traced_register
  bind := Traced.bind

section

variable [Files Id]

theorem traced_loadFileWithin (depth : Nat) (path : String) :
    Traced (loadFileWithin depth path : Loading Id Unit) := by
  induction depth generalizing path with
  | zero => exact traced_of_exec fun _ => rfl
  | succ depth ih =>
    intro l
    rw [exec_loadFileWithin_succ]
    cases Disk.canonical path with
    | error cause => exact ⟨{}, takes_nothing l _⟩
    | ok file =>
      by_cases hmet : file ∈ l.met
      · simp only [hmet, if_true]
        exact ⟨{}, takes_nothing l _⟩
      · simp only [hmet, if_false]
        -- A mark changes neither the manifests nor what is merged.
        obtain ⟨t, ht⟩ := compositional_traced.loadNew ih path file (l.mark file)
        exact ⟨t, fun f hf => ht.met f (List.mem_append_left _ hf), ht.manifests, ht.merger,
          ht.leftover⟩

theorem traced_loadImports (depth : Nat) (importer : String) (imports : List String) :
    Traced (loadImports depth importer imports) :=
  compositional_traced.forM
    (compositional_traced.resolving (traced_loadFileWithin depth) (some importer)) imports

theorem traced_loadFile (path : String) : Traced (loadFile path : Loading Id Unit) := by
  intro l
  rw [exec_loadFile]
  exact traced_loadFileWithin _ path l

end

/-! ## Calls -/

/-- A call of a loader from outside. -/
inductive Call where
  | file (path : String)
  | text (origin contents : String)

def Call.run {m : Type → Type} [Monad m] [Files m] : Call → Loading m Unit
  | .file path => loadFile path
  | .text origin contents => loadText origin contents

section

variable [Files Id]

theorem Call.traced (c : Call) : Traced (c.run : Loading Id Unit) := by
  cases c with
  | file path => exact traced_loadFile path
  | text origin contents => exact compositional_traced.loadText traced_loadFile origin contents

/-- The answers to calls one after another. A failed call does not keep the next one from coming. -/
def answers (l : Loader) : List Call → List (Except LoadError Unit)
  | [] => []
  | c :: rest => (c.run.exec l).1 :: (c.run.exec l).2.answers rest

/-- The loader after calls. -/
def after (l : Loader) : List Call → Loader
  | [] => l
  | c :: rest => (c.run.exec l).2.after rest

/-- Calls one after another take that in. -/
inductive TakesAll : Loader → List Call → List Taken → Prop where
  | nil (l : Loader) : TakesAll l [] []
  | cons {l : Loader} {c : Call} {rest : List Call} {t : Taken} {taken : List Taken}
    (h : Takes l (c.run.exec l) t) (hrest : TakesAll (c.run.exec l).2 rest taken) :
    TakesAll l (c :: rest) (t :: taken)

theorem exists_takesAll (l : Loader) (calls : List Call) : ∃ taken, TakesAll l calls taken := by
  induction calls generalizing l with
  | nil => exact ⟨[], .nil l⟩
  | cons c rest ih =>
    obtain ⟨t, ht⟩ := c.traced l
    obtain ⟨taken, htaken⟩ := ih (c.run.exec l).2
    exact ⟨t :: taken, .cons ht htaken⟩

variable {l : Loader} {calls : List Call} {taken : List Taken}

theorem TakesAll.manifests (h : TakesAll l calls taken) :
    (l.after calls).manifests = l.manifests ++ taken.flatMap (·.registered) := by
  induction h with
  | nil l => exact (List.append_nil _).symm
  | cons ht _ ih => rw [after, ih, ht.manifests, List.flatMap_cons, List.append_assoc]

theorem TakesAll.merger (h : TakesAll l calls taken) :
    l.merger.addAll (taken.flatMap Taken.subjects) = (.ok (), (l.after calls).merger) := by
  induction h with
  | nil l => rfl
  | cons ht _ ih => rw [after, List.flatMap_cons, Merger.addAll_append ht.merger, ih]

/-- Nothing is left over from calls that were not answered with a mismatch. -/
theorem TakesAll.leftover (h : TakesAll l calls taken)
    (hanswers : ∀ e, .error (.mismatch e) ∉ l.answers calls) :
    taken.flatMap Taken.subjects = (taken.flatMap (·.registered)).flatMap (·.subjects) := by
  induction h with
  | nil l => rfl
  | @cons l c rest t taken ht _ ih =>
    rw [answers] at hanswers
    have hnil : t.leftover = [] := by
      rcases ht.leftover with hnil | ⟨e, -, -, -, -, -, -, -, hanswer⟩
      · exact hnil
      · exact absurd (hanswer ▸ List.mem_cons_self) (hanswers e)
    have hrest := ih fun e he => hanswers e (List.mem_cons_of_mem _ he)
    rw [List.flatMap_cons, hrest, List.flatMap_cons, List.flatMap_append, Taken.subjects, hnil,
      List.append_nil]

/-- **What is merged after any calls**: the subjects of the registered manifests in order, and what
    is left over from the manifests that were refused. If no call was answered with a mismatch there
    are no leftovers, whatever else failed. -/
theorem merger_after (includeDirs : List String) (calls : List Call) :
    ∃ taken, TakesAll { includeDirs } calls taken
      ∧ (after { includeDirs } calls).manifests = taken.flatMap (·.registered)
      ∧ Merger.addAll {} (taken.flatMap Taken.subjects)
        = (.ok (), (after { includeDirs } calls).merger)
      ∧ ((∀ e, .error (.mismatch e) ∉ answers { includeDirs } calls) →
        Merger.addAll {} ((after { includeDirs } calls).manifests.flatMap (·.subjects))
          = (.ok (), (after { includeDirs } calls).merger)) := by
  obtain ⟨taken, htaken⟩ := exists_takesAll { includeDirs } calls
  have hmanifests : (after { includeDirs } calls).manifests = taken.flatMap (·.registered) :=
    htaken.manifests
  refine ⟨taken, htaken, hmanifests, htaken.merger, fun hanswers => ?_⟩
  rw [hmanifests, ← htaken.leftover hanswers]
  exact htaken.merger

end

/-- The text of a manifest with two subjects, the second of them a further fragment of the first,
    but of another kind. -/
def driftText : String :=
  "manifest:\n  assembly: A\nsubjects:\n- name: X\n  reference: X\n"
    ++ "- name: X\n  reference: X\n  kind: record\n"

theorem parse_driftText :
    Manifest.parse driftText = .ok
      { assembly := "A"
        subjects := [{ name := "X", reference := "X" },
          { name := "X", reference := "X", kind := .recordType }] } := by
  have htokens : Yaml.tokens driftText
      = [.blockMappingStart, .key, .scalar "manifest" .plain, .value, .blockMappingStart,
        .key, .scalar "assembly" .plain, .value, .scalar "A" .plain, .blockEnd,
        .key, .scalar "subjects" .plain, .value,
        .blockEntry, .blockMappingStart, .key, .scalar "name" .plain, .value, .scalar "X" .plain,
        .key, .scalar "reference" .plain, .value, .scalar "X" .plain, .blockEnd,
        .blockEntry, .blockMappingStart, .key, .scalar "name" .plain, .value, .scalar "X" .plain,
        .key, .scalar "reference" .plain, .value, .scalar "X" .plain,
        .key, .scalar "kind" .plain, .value, .scalar "record" .plain, .blockEnd,
        .blockEnd] := by
    decide +kernel
  rw [Manifest.parse, Yaml.load, htokens]
  cbv

/-- A manifest that is refused at its second subject is not registered, but its first subject is
    among the merged ones, where no registered manifest has any. -/
theorem merger_drifts :
    letI := ({} : FileTree).frozen
    let l := after {} [.text "inline" driftText]
    l.manifests = [] ∧ l.subjects.map (·.reference) = ["X"]
      ∧ Merger.addAll {} (l.manifests.flatMap (·.subjects)) ≠ (.ok (), l.merger) := by
  let files := ({} : FileTree).frozen
  have hafter : after {} [.text "inline" driftText]
      = { merger := { subjects := [{ name := "X", reference := "X" }] } } := by
    simp [after, Call.run, loadText, exec_bind, exec_parse, parse_driftText, Except.mapError,
      exec_register, Merger.addAll, Merger.offer, Merger.get?, SubjectDecl.mismatch?]
  rw [hafter]
  refine ⟨rfl, rfl, ?_⟩
  intro h
  have hsubjects := congrArg (·.2.subjects.length) h
  exact absurd hsubjects (by decide)

end Loader

end Companion
