import Companion.Proofs.Loading.History
import Companion.Proofs.Loading.ImportGraph

/-!
# What a successful load has loaded

A file is marked before it is read, and a marked file is left alone. So a load may succeed without
doing anything, and then the question is whether the file was loaded when it was marked. Every file
that a successful call marks is registered by the end of that call, imports in a circle included.
A call that fails leaves marks on files that it did not register, and loading one of those again
succeeds and registers nothing.

**The marks of one step are settled together.** Inside of a step there are marked files that are
not registered yet, but a step that succeeds registers all files that it marked itself; that is what
composes (`Settles`).
-/

namespace Companion

namespace Loader

open Loading

/-! ## Registered manifests -/

/-- The loader holds what was merged from nothing, without a refusal. -/
def Grown (l : Loader) : Prop :=
  ∃ history, Merger.addAll {} history = (.ok (), l.merger)

/-- The manifest is registered, and its subjects were merged, one after another. -/
def Registered (l : Loader) (manifest : Manifest) : Prop :=
  manifest ∈ l.manifests
    ∧ ∃ before after, Merger.addAll {} (before ++ manifest.subjects ++ after) = (.ok (), l.merger)

theorem grown_empty (includeDirs : List String) : Grown { includeDirs } :=
  ⟨[], rfl⟩

section

variable {α β : Type} {l l' : Loader} {outcome : Except LoadError α} {t : Taken}

theorem Takes.grown (h : Takes l (outcome, l') t) (hl : l.Grown) : l'.Grown := by
  obtain ⟨history, hhistory⟩ := hl
  refine ⟨history ++ t.subjects, ?_⟩
  rw [Merger.addAll_append hhistory]
  exact h.merger

/-- What is registered stays registered. -/
theorem Takes.registered_of (h : Takes l (outcome, l') t) {manifest : Manifest}
    (hregistered : l.Registered manifest) : l'.Registered manifest := by
  obtain ⟨hmem, before, after, hmerged⟩ := hregistered
  refine ⟨?_, before, after ++ t.subjects, ?_⟩
  · rw [h.manifests]
    exact List.mem_append_left _ hmem
  · rw [← List.append_assoc, Merger.addAll_append hmerged]
    exact h.merger

theorem Grown.mark (hl : l.Grown) (file : String) : (l.mark file).Grown := hl

theorem Grown.register {manifest : Manifest} (hl : l.Grown)
    (h : (register manifest : Loading Id Unit).exec l = (.ok (), l')) : l'.Registered manifest := by
  obtain ⟨merger, hmerger, rfl⟩ := register_eq_ok h
  obtain ⟨history, hhistory⟩ := hl
  refine ⟨List.mem_append_right _ List.mem_cons_self, history, [], ?_⟩
  rw [List.append_nil, Merger.addAll_append hhistory]
  exact hmerger

end

theorem exec_register_met (manifest : Manifest) (l : Loader) :
    ((register manifest : Loading Id Unit).exec l).2.met = l.met := by
  rw [exec_register]
  cases l.merger.addAll manifest.subjects with
  | mk outcome merger => cases outcome <;> rfl

section

variable [Files Id]

/-- The manifest of the file at that canonical path is registered, and its subjects are merged. -/
def Loaded (l : Loader) (file : String) : Prop :=
  ∃ manifest, Holds file manifest ∧ l.Registered manifest

/-! ## Steps that succeed -/

/-- The step, if it succeeds, has loaded every file that it marked. -/
structure Settles {α : Type} (x : Loading Id α) : Prop where
  traced : Traced x
  loaded : ∀ l, Grown l → ∀ a l', x.exec l = (.ok a, l') →
    ∀ file ∈ l'.met, file ∉ l.met → l'.Loaded file

variable {α β : Type}

theorem Takes.loaded_of {l l' : Loader} {outcome : Except LoadError α} {t : Taken}
    (h : Takes l (outcome, l') t) {file : String} (hloaded : l.Loaded file) : l'.Loaded file := by
  obtain ⟨manifest, hholds, hregistered⟩ := hloaded
  exact ⟨manifest, hholds, h.registered_of hregistered⟩

/-- A step that marks nothing. -/
theorem Traced.settles {x : Loading Id α} (htraced : Traced x)
    (h : ∀ l, (x.exec l).2.met = l.met) : Settles x where
  traced := htraced
  loaded := by
    intro l _ a l' hexec file hmet hnew
    have hsame := h l
    rw [hexec] at hsame
    exact absurd (hsame ▸ hmet) hnew

theorem Settles.bind {x : Loading Id α} {f : α → Loading Id β} (hx : Settles x)
    (hf : ∀ a l l', x.exec l = (.ok a, l') → Settles (f a)) : Settles (x >>= f) where
  traced := hx.traced.bind fun a l l' hexec => (hf a l l' hexec).traced
  loaded := by
    intro l hl b l' hexec file hmet hnew
    obtain ⟨a, between, hfirst, hsecond⟩ := exec_bind_eq_ok.mp hexec
    have hstep := hf a l between hfirst
    obtain ⟨t, ht⟩ := hx.traced l
    obtain ⟨t', ht'⟩ := hstep.traced between
    rw [hfirst] at ht
    rw [hsecond] at ht'
    by_cases hbetween : file ∈ between.met
    · exact ht'.loaded_of (hx.loaded l hl a between hfirst file hbetween hnew)
    · exact hstep.loaded between (ht.grown hl) b l' hsecond file hmet hbetween

theorem compositional_settles : Compositional Settles where
  still := fun h => (traced_of_exec h).settles fun l => by rw [h]
  register := fun hparse => (traced_register hparse).settles (exec_register_met _)
  bind := Settles.bind

/-- A file that is new and is loaded with success is loaded itself. -/
theorem loaded_of_loadNew {depth : Nat} {path file : String} {l l' : Loader} (hl : l.Grown)
    (hpath : Disk.canonical path = .ok file)
    (h : (loadNew depth path file).exec l = (.ok (), l')) : l'.Loaded file := by
  obtain ⟨text, manifest, between, hread, hparse, himports, hregister⟩ := loadNew_eq_ok h
  obtain ⟨t, ht⟩ := traced_loadImports depth file manifest.imports l
  rw [himports] at ht
  exact ⟨manifest, ⟨path, text, hpath, hread, hparse⟩, (ht.grown hl).register hregister⟩

/-- The induction is on how deep imports may nest. A file that is met again below marks nothing, so
    what is left for the file itself is that it is registered behind its imports. -/
theorem settles_loadFileWithin (depth : Nat) (path : String) :
    Settles (loadFileWithin depth path : Loading Id Unit) := by
  refine ⟨traced_loadFileWithin depth path, ?_⟩
  induction depth generalizing path with
  | zero =>
    intro l _ _ l' hexec
    rw [exec_loadFileWithin_zero] at hexec
    exact absurd (congrArg Prod.fst hexec) (by simp)
  | succ depth ih =>
    intro l hl _ l' hexec file hmet hnew
    rw [exec_loadFileWithin_succ] at hexec
    cases hpath : Disk.canonical path with
    | error cause =>
      rw [hpath] at hexec
      exact absurd (congrArg Prod.fst hexec) (by simp)
    | ok root =>
      simp only [hpath] at hexec
      by_cases hroot : root ∈ l.met
      · rw [if_pos hroot] at hexec
        obtain rfl : l = l' := congrArg Prod.snd hexec
        exact absurd hmet hnew
      · rw [if_neg hroot] at hexec
        have hsettled : Settles (loadNew depth path root) :=
          compositional_settles.loadNew (fun path => ⟨traced_loadFileWithin depth path, ih path⟩)
            path root
        by_cases hfile : file = root
        · subst hfile
          exact loaded_of_loadNew (hl.mark file) hpath hexec
        · refine hsettled.loaded (l.mark root) (hl.mark root) () l' hexec file hmet ?_
          intro hmarked
          rcases List.mem_append.mp hmarked with hmarked | hmarked
          · exact hnew hmarked
          · exact hfile (List.mem_singleton.mp hmarked)

theorem settles_loadFile (path : String) : Settles (loadFile path : Loading Id Unit) where
  traced := traced_loadFile path
  loaded := by
    intro l
    rw [exec_loadFile]
    exact (settles_loadFileWithin _ path).loaded l

theorem Call.settles (c : Call) : Settles (c.run : Loading Id Unit) := by
  cases c with
  | file path => exact settles_loadFile path
  | text origin contents => exact compositional_settles.loadText settles_loadFile origin contents

/-! ## After any calls -/

/-- One of the calls failed and left the file behind: it marked the file and did not load it. -/
inductive LeftBehind (file : String) : Loader → List Call → Prop where
  | here {l : Loader} {c : Call} {rest : List Call} {e : LoadError}
    (hfailed : (c.run.exec l).1 = .error e) (hnew : file ∉ l.met)
    (hmarked : file ∈ (c.run.exec l).2.met) (hopen : ¬ (c.run.exec l).2.Loaded file) :
    LeftBehind file l (c :: rest)
  | later {l : Loader} {c : Call} {rest : List Call} (h : LeftBehind file (c.run.exec l).2 rest) :
    LeftBehind file l (c :: rest)

theorem Loaded.after {l : Loader} {file : String} (h : l.Loaded file) (calls : List Call) :
    (l.after calls).Loaded file := by
  induction calls generalizing l with
  | nil => exact h
  | cons c rest ih =>
    obtain ⟨t, ht⟩ := c.traced l
    exact ih (ht.loaded_of h)

theorem Grown.after {l : Loader} (h : l.Grown) (calls : List Call) : (l.after calls).Grown := by
  induction calls generalizing l with
  | nil => exact h
  | cons c rest ih =>
    obtain ⟨t, ht⟩ := c.traced l
    exact ih (ht.grown h)

/-- A file with a mark was marked before, or is loaded, or was left behind. -/
theorem Grown.loaded_or_leftBehind {l : Loader} (hl : l.Grown) {calls : List Call} {file : String}
    (hmet : file ∈ (l.after calls).met) (hnew : file ∉ l.met) :
    (l.after calls).Loaded file ∨ LeftBehind file l calls := by
  induction calls generalizing l with
  | nil => exact absurd hmet hnew
  | cons c rest ih =>
    have hgrown : (c.run.exec l).2.Grown := hl.after [c]
    by_cases hmarked : file ∈ (c.run.exec l).2.met
    · by_cases hloaded : (c.run.exec l).2.Loaded file
      · exact .inl (hloaded.after rest)
      · right
        cases houtcome : (c.run.exec l).1 with
        | error e => exact .here houtcome hnew hmarked hloaded
        | ok _ =>
          have hsettled := c.settles.loaded l hl () _ (Prod.ext houtcome rfl) file hmarked hnew
          exact absurd hsettled hloaded
    · exact (ih hgrown hmet hmarked).imp_right .later

theorem mem_met_of_loadFile {path : String} {l l' : Loader}
    (h : (loadFile path : Loading Id Unit).exec l = (.ok (), l')) :
    ∃ file, Disk.canonical path = .ok file ∧ file ∈ l'.met ∧ (file ∈ l.met → l' = l) := by
  rw [exec_loadFile, exec_loadFileWithin_succ] at h
  cases hpath : Disk.canonical path with
  | error cause =>
    rw [hpath] at h
    exact absurd (congrArg Prod.fst h) (by simp)
  | ok file =>
    simp only [hpath] at h
    by_cases hmet : file ∈ l.met
    · rw [if_pos hmet] at h
      obtain rfl : l = l' := congrArg Prod.snd h
      exact ⟨file, rfl, hmet, fun _ => rfl⟩
    · rw [if_neg hmet] at h
      obtain ⟨t, ht⟩ :=
        compositional_traced.loadNew (traced_loadFileWithin _) path file (l.mark file)
      rw [h] at ht
      have hmarked : file ∈ (l.mark file).met := List.mem_append_right _ List.mem_cons_self
      exact ⟨file, rfl, ht.met file hmarked, fun h => absurd h hmet⟩

/-- **What a successful load has loaded**, whatever was called before and whatever of that failed:
    its file is loaded, unless a failed call left that file behind. Then loading it does nothing. -/
theorem loadFile_loads {includeDirs : List String} {calls : List Call} {path : String} {l : Loader}
    (h : (loadFile path : Loading Id Unit).exec (after { includeDirs } calls) = (.ok (), l)) :
    ∃ file, Disk.canonical path = .ok file
      ∧ (l.Loaded file
        ∨ LeftBehind file { includeDirs } calls ∧ l = after { includeDirs } calls) := by
  have hgrown : (after { includeDirs } calls).Grown := (grown_empty includeDirs).after calls
  obtain ⟨file, hpath, hmet, hsame⟩ := mem_met_of_loadFile h
  refine ⟨file, hpath, ?_⟩
  by_cases hbefore : file ∈ (after { includeDirs } calls).met
  · obtain rfl := hsame hbefore
    have hcases := (grown_empty includeDirs).loaded_or_leftBehind hbefore (List.not_mem_nil)
    exact hcases.imp_right fun hleft => ⟨hleft, rfl⟩
  · exact .inl ((settles_loadFile path).loaded _ hgrown () l h file hmet hbefore)

end

/-- The text of a manifest with a subject, which imports a file by its name. -/
def importingText : String :=
  "manifest:\n  assembly: A\n  imports:\n  - path: b\nsubjects:\n- name: X\n  reference: X\n"

theorem parse_importingText :
    Manifest.parse importingText = .ok
      { assembly := "A", imports := ["b"], subjects := [{ name := "X", reference := "X" }] } := by
  have htokens : Yaml.tokens importingText
      = [.blockMappingStart, .key, .scalar "manifest" .plain, .value, .blockMappingStart,
        .key, .scalar "assembly" .plain, .value, .scalar "A" .plain,
        .key, .scalar "imports" .plain, .value,
        .blockEntry, .blockMappingStart, .key, .scalar "path" .plain, .value,
        .scalar "b" .plain, .blockEnd,
        .blockEnd,
        .key, .scalar "subjects" .plain, .value,
        .blockEntry, .blockMappingStart, .key, .scalar "name" .plain, .value, .scalar "X" .plain,
        .key, .scalar "reference" .plain, .value, .scalar "X" .plain, .blockEnd,
        .blockEnd] := by
    decide +kernel
  rw [Manifest.parse, Yaml.load, htokens]
  cbv

/-- Two files with one text. The file that they import is there only beside the second, and is that
    file itself. -/
def dangling : FileTree where
  entries :=
    [(["w"], .folder), (["w", "a"], .file (some importingText)),
      (["v"], .folder), (["v", "b"], .file (some importingText))]
  home := ["w"]

theorem after_dangling :
    letI := dangling.frozen
    after {} [.file "a"] = { met := ["/w/a"] }
      ∧ answers {} [.file "a"] = [.error (.importNotFound "b" "/w/a")] := by
  let files := dangling.frozen
  have ha : Disk.canonical "a" = .ok "/w/a" := by decide +kernel
  have hread : Disk.read "a" = .ok importingText := by decide +kernel
  have hb : destination [] (some "/w/a") "b" = .error (.importNotFound "b" "/w/a") := by
    decide +kernel
  simp [after, answers, Call.run, exec_bind, exec_loadFile, exec_loadFileWithin_succ, loadNew,
    exec_read, exec_parse, loadImports, exec_resolveImport, mark, Except.mapError,
    parse_importingText, ha, hread, hb]

theorem loadFile_loads_dangling :
    letI := dangling.frozen
    ∃ l, (loadFile "/v/b" : Loading Id Unit).exec (after {} [.file "a"]) = (.ok (), l)
      ∧ ∃ file, Disk.canonical "/v/b" = .ok file
        ∧ (l.Loaded file ∨ LeftBehind file {} [.file "a"] ∧ l = after {} [.file "a"]) := by
  let files := dangling.frozen
  have hb : Disk.canonical "/v/b" = .ok "/v/b" := by decide +kernel
  have hread : Disk.read "/v/b" = .ok importingText := by decide +kernel
  have hbb : destination [] (some "/v/b") "b" = .ok "/v/b" := by decide +kernel
  have hload : ∃ l, (loadFile "/v/b" : Loading Id Unit).exec (after {} [.file "a"])
      = (.ok (), l) := by
    rw [after_dangling.1, exec_loadFile]
    exact ⟨_, exec_loadFileWithin_new hb (by simp) hread parse_importingText
      (exec_loadImports_cons hbb (exec_loadFileWithin_met hb (by simp [mark]))
        (exec_loadImports_nil _ _ _))
      (by rw [exec_register]; rfl)⟩
  obtain ⟨l, hl⟩ := hload
  exact ⟨l, hl, loadFile_loads hl⟩

/-- A file whose import was not found is loaded once more: that succeeds, and nothing is loaded. -/
theorem loadFile_again :
    letI := dangling.frozen
    let l := after {} [.file "a"]
    answers {} [.file "a"] = [.error (.importNotFound "b" "/w/a")]
      ∧ (loadFile "a" : Loading Id Unit).exec l = (.ok (), l)
      ∧ Disk.canonical "a" = .ok "/w/a" ∧ l.manifests = [] ∧ ¬ l.Loaded "/w/a" := by
  let files := dangling.frozen
  have ha : Disk.canonical "a" = .ok "/w/a" := by decide +kernel
  obtain ⟨hafter, hanswers⟩ := after_dangling
  refine ⟨hanswers, ?_, ha, ?_, ?_⟩
  · rw [hafter]
    exact exec_loadFile_met ha (by simp)
  · rw [hafter]
  · rw [hafter]
    rintro ⟨manifest, -, hregistered, -⟩
    exact absurd hregistered (List.not_mem_nil)

end Loader

end Companion
