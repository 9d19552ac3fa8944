import Companion.Proofs.Files.Frozen
import Companion.Proofs.Loading.Run
import Mathlib

/-!
# Loading follows the import graph

Files import each other in any way: several may import one, a file may be reached by many
spellings of its path, and imports may lead round in circles. Loading registers every file that
can be reached exactly once, and imports first wherever that is possible.

**A file that was met and is not registered is on the way to what is being loaded.** That is what
carries the order: when a file is registered, each of its imports was met, so it is registered
already or it leads to this file again.
-/

namespace Companion

open Relation

namespace Loader

open Loading

/-! ## What a step adds -/

/-- What a step of loading adds: these files, which were not met before. -/
structure Adds (l l' : Loader) (files : List String) : Prop where
  includeDirs : l'.includeDirs = l.includeDirs
  met_iff : ∀ f, f ∈ l'.met ↔ f ∈ l.met ∨ f ∈ files
  fresh : ∀ f ∈ files, f ∉ l.met

theorem Adds.refl (l : Loader) : Adds l l [] :=
  ⟨rfl, by simp, by simp⟩

theorem Adds.trans {l l' l'' : Loader} {files files' : List String} (h : Adds l l' files)
    (h' : Adds l' l'' files') : Adds l l'' (files ++ files') where
  includeDirs := h'.includeDirs.trans h.includeDirs
  met_iff := by
    intro f
    rw [h'.met_iff, h.met_iff, List.mem_append, or_assoc]
  fresh := by
    intro f hf hmet
    rcases List.mem_append.mp hf with hf | hf
    · exact h.fresh f hf hmet
    · exact h'.fresh f hf ((h.met_iff f).mpr (.inl hmet))

/-- A file that is marked first and registered last is one of the added ones. -/
theorem Adds.of_mark {l l' : Loader} {file : String} {files : List String}
    (h : Adds (l.mark file) l' files) (hfile : file ∉ l.met) : Adds l l' (files ++ [file]) where
  includeDirs := h.includeDirs
  met_iff := by
    intro f
    rw [h.met_iff, mark, List.mem_append, List.mem_append, or_assoc, or_comm (a := f ∈ [file])]
  fresh := by
    intro f hf hmet
    rcases List.mem_append.mp hf with hf | hf
    · exact h.fresh f hf (List.mem_append_left _ hmet)
    · exact hfile (List.mem_singleton.mp hf ▸ hmet)

section

variable [Files Id]

/-! ## The graph -/

/-- The file at that canonical path has that manifest. -/
def Holds (file : String) (manifest : Manifest) : Prop :=
  ∃ path text,
    Disk.canonical path = .ok file ∧ Disk.read path = .ok text
      ∧ Manifest.parse text = .ok manifest

/-- The first file imports the second. Files are canonical paths. -/
def Imports (includeDirs : List String) (importer imported : String) : Prop :=
  ∃ manifest, Holds importer manifest
    ∧ ∃ path ∈ manifest.imports, destination includeDirs (some importer) path = .ok imported

/-- The file is one of the roots, or is imported on the way from one. -/
def Reached (includeDirs roots : List String) (file : String) : Prop :=
  ∃ path ∈ roots, ∃ root,
    Disk.canonical path = .ok root ∧ ReflTransGen (Imports includeDirs) root file

theorem Holds.unique [LawfulFiles] {file : String} {manifest manifest' : Manifest}
    (h : Holds file manifest) (h' : Holds file manifest') : manifest = manifest' := by
  obtain ⟨path, text, hpath, htext, hparse⟩ := h
  obtain ⟨path', text', hpath', htext', hparse'⟩ := h'
  obtain rfl := LawfulFiles.read_unique hpath hpath' htext htext'
  exact Except.ok.inj (hparse.symm.trans hparse')

/-! ## What is registered -/

/-- The registered manifests are those of these files, which were all met, with all their imports.
    Files come behind what they import, unless that leads to them. -/
structure Finished (l : Loader) (files : List String) : Prop where
  holds : List.Forall₂ Holds files l.manifests
  nodup : files.Nodup
  met_nodup : l.met.Nodup
  met : ∀ f ∈ files, f ∈ l.met
  imports_met : ∀ f ∈ files, ∀ g, Imports l.includeDirs f g → g ∈ l.met
  imports_first : ∀ f ∈ files, ∀ g, Imports l.includeDirs f g →
    files.idxOf g < files.idxOf f ∨ TransGen (Imports l.includeDirs) g f

theorem finished_empty (includeDirs : List String) : Finished { includeDirs } [] where
  holds := .nil
  nodup := .nil
  met_nodup := .nil
  met := by simp
  imports_met := by simp
  imports_first := by simp

theorem Finished.mark {l : Loader} {files : List String} (h : Finished l files) {file : String}
    (hfile : file ∉ l.met) : Finished (l.mark file) files where
  holds := h.holds
  nodup := h.nodup
  met_nodup := by
    rw [Loader.mark, ← List.concat_eq_append]
    exact .concat hfile h.met_nodup
  met := fun f hf => List.mem_append_left _ (h.met f hf)
  imports_met := fun f hf g hg => List.mem_append_left _ (h.imports_met f hf g hg)
  imports_first := h.imports_first

/-- A file may be registered next if its imports were met, and the unregistered ones lead to it. -/
theorem Finished.register {l : Loader} {files : List String} (h : Finished l files) {file : String}
    {manifest : Manifest} (hmet : file ∈ l.met) (hopen : file ∉ files)
    (hholds : Holds file manifest)
    (himports : ∀ g, Imports l.includeDirs file g → g ∈ l.met)
    (hleads : ∀ g ∈ l.met, g ∉ files → g = file ∨ TransGen (Imports l.includeDirs) g file)
    (merger : Merger) :
    Finished { l with merger, manifests := l.manifests ++ [manifest] } (files ++ [file]) where
  holds := List.rel_append h.holds (.cons hholds .nil)
  nodup := by
    rw [← List.concat_eq_append]
    exact .concat hopen h.nodup
  met_nodup := h.met_nodup
  met := by
    intro f hf
    rcases List.mem_append.mp hf with hf | hf
    · exact h.met f hf
    · obtain rfl := List.mem_singleton.mp hf
      exact hmet
  imports_met := by
    intro f hf g hg
    rcases List.mem_append.mp hf with hf | hf
    · exact h.imports_met f hf g hg
    · obtain rfl := List.mem_singleton.mp hf
      exact himports g hg
  imports_first := by
    intro f hf g hg
    rcases List.mem_append.mp hf with hf | hf
    · refine (h.imports_first f hf g hg).imp_left ?_
      intro hlt
      -- What comes before a registered file is registered, so no position changes.
      have hg : g ∈ files :=
        List.idxOf_lt_length_iff.mp (Nat.lt_trans hlt (List.idxOf_lt_length_iff.mpr hf))
      rwa [List.idxOf_append_of_mem hg, List.idxOf_append_of_mem hf]
    · obtain rfl := List.mem_singleton.mp hf
      by_cases hgf : g ∈ files
      · left
        rw [List.idxOf_append_of_mem hgf, List.idxOf_append_of_notMem hopen]
        exact Nat.lt_add_right _ (List.idxOf_lt_length_iff.mpr hgf)
      · right
        rcases hleads g (himports g hg) hgf with rfl | hlead
        · exact .single hg
        · exact hlead

/-! ## Loading -/

/-- The files that were met and are not registered lead to what a path leads to. -/
def Leading (l : Loader) (files : List String) (path : String) : Prop :=
  ∀ file, Disk.canonical path = .ok file →
    ∀ g ∈ l.met, g ∉ files → TransGen (Imports l.includeDirs) g file

/-- What loading a path does if it succeeds, nested at most so deep. -/
def Visits (depth : Nat) : Prop :=
  ∀ {path : String} {l l' : Loader} {files : List String},
    Finished l files → Leading l files path →
      (loadFileWithin depth path : Loading Id Unit).exec l = (.ok (), l') →
      ∃ file added, Disk.canonical path = .ok file ∧ file ∈ l'.met
        ∧ Finished l' (files ++ added) ∧ Adds l l' added
        ∧ ∀ f ∈ added, ReflTransGen (Imports l.includeDirs) file f

/-- The imports of a file are loaded one after another. Those of the unregistered files that lead to
    the file lead to each of its imports, and stay the same. -/
theorem Visits.imports [LawfulFiles] {depth : Nat} (ih : Visits depth) {file : String}
    {imports : List String} {l l' : Loader} {files : List String} (h : Finished l files)
    (hleads : ∀ g ∈ l.met, g ∉ files → g = file ∨ TransGen (Imports l.includeDirs) g file)
    (himports : ∀ path ∈ imports, ∀ g,
      destination l.includeDirs (some file) path = .ok g → Imports l.includeDirs file g)
    (hrun : (loadImports depth file imports).exec l = (.ok (), l')) :
    ∃ added, Finished l' (files ++ added) ∧ Adds l l' added
      ∧ (∀ path ∈ imports, ∀ g,
        destination l.includeDirs (some file) path = .ok g → g ∈ l'.met)
      ∧ ∀ f ∈ added, TransGen (Imports l.includeDirs) file f := by
  induction imports generalizing l files with
  | nil =>
    obtain rfl : l = l' := congrArg Prod.snd hrun
    exact ⟨[], by simpa using h, .refl l, by simp, by simp⟩
  | cons path rest ihrest =>
    obtain ⟨g, between, hg, hload, hrest⟩ := loadImports_cons_eq_ok hrun
    have hedge := himports path List.mem_cons_self g hg
    obtain ⟨found, hfound⟩ := canonical_of_destination hg
    -- Whatever led to the importer leads to the import, and so does the importer itself.
    have hleading : Leading l files g := by
      intro again hagain a ha haf
      obtain rfl := LawfulFiles.canonical_unique hfound hagain
      rcases hleads a ha haf with rfl | hlead
      · exact .single hedge
      · exact hlead.tail hedge
    obtain ⟨again, added, hagain, hmet, hfinished, hadds, hreach⟩ := ih h hleading hload
    -- The canonical path that an import leads to is the one that it is loaded by.
    obtain rfl := LawfulFiles.canonical_unique hfound hagain
    rw [← hadds.includeDirs] at himports
    obtain ⟨added', hfinished', hadds', hmets, hreach'⟩ := ihrest hfinished (by
      intro a ha haf
      rw [hadds.includeDirs]
      rw [List.mem_append, not_or] at haf
      exact hleads a (((hadds.met_iff a).mp ha).resolve_right haf.2) haf.1)
      (fun path hpath => himports path (List.mem_cons_of_mem _ hpath)) hrest
    rw [hadds.includeDirs] at hmets hreach'
    refine ⟨added ++ added', ?_, hadds.trans hadds', ?_, ?_⟩
    · rwa [← List.append_assoc]
    · intro p hp g' hg'
      rcases List.mem_cons.mp hp with rfl | hp
      · obtain rfl := Except.ok.inj (hg.symm.trans hg')
        exact (hadds'.met_iff _).mpr (.inl hmet)
      · exact hmets p hp g' hg'
    · intro f hf
      rcases List.mem_append.mp hf with hf | hf
      · exact .head' hedge (hreach f hf)
      · exact hreach' f hf

/-- A file that was not met before is registered behind all that its imports add. -/
theorem Visits.new [LawfulFiles] {depth : Nat} (ih : Visits depth) {path file : String}
    {l l' : Loader} {files : List String} (h : Finished l files) (hleading : Leading l files path)
    (hpath : Disk.canonical path = .ok file) (hnew : file ∉ l.met)
    (hrun : (loadNew depth path file).exec (l.mark file) = (.ok (), l')) :
    ∃ added, file ∈ l'.met ∧ Finished l' (files ++ added) ∧ Adds l l' added
      ∧ ∀ f ∈ added, ReflTransGen (Imports l.includeDirs) file f := by
  obtain ⟨text, manifest, between, htext, hparse, himports, hregister⟩ := loadNew_eq_ok hrun
  have hholds : Holds file manifest := ⟨path, text, hpath, htext, hparse⟩
  have hleads : ∀ g ∈ (l.mark file).met, g ∉ files →
      g = file ∨ TransGen (Imports l.includeDirs) g file := by
    intro g hg hgf
    rcases List.mem_append.mp hg with hg | hg
    · exact .inr (hleading file hpath g hg hgf)
    · exact .inl (List.mem_singleton.mp hg)
  obtain ⟨added, hfinished, hadds, hmets, hreach⟩ :=
    ih.imports (h.mark hnew) hleads (fun p hp g hg => ⟨manifest, hholds, p, hp, hg⟩) himports
  obtain ⟨merger, -, rfl⟩ := register_eq_ok hregister
  have hdirs : between.includeDirs = l.includeDirs := hadds.includeDirs
  have hmark : file ∈ (l.mark file).met := List.mem_append_right _ List.mem_cons_self
  have hmet : file ∈ between.met := (hadds.met_iff file).mpr (.inl hmark)
  -- The file was marked before its imports were loaded, so none of them registered it.
  have hopen : file ∉ files ++ added := by
    intro hf
    rcases List.mem_append.mp hf with hf | hf
    · exact hnew (h.met file hf)
    · exact hadds.fresh file hf hmark
  have himportsMet : ∀ g, Imports between.includeDirs file g → g ∈ between.met := by
    rintro g ⟨manifest', hholds', p, hp, hg⟩
    obtain rfl := hholds.unique hholds'
    exact hmets p hp g (hdirs ▸ hg)
  have hleadsAfter : ∀ g ∈ between.met, g ∉ files ++ added →
      g = file ∨ TransGen (Imports between.includeDirs) g file := by
    intro g hg hgf
    rw [List.mem_append, not_or] at hgf
    rw [hdirs]
    exact hleads g (((hadds.met_iff g).mp hg).resolve_right hgf.2) hgf.1
  have hadds' := hadds.of_mark hnew
  refine ⟨added ++ [file], hmet, ?_, ⟨hadds'.includeDirs, hadds'.met_iff, hadds'.fresh⟩, ?_⟩
  · rw [← List.append_assoc]
    exact hfinished.register hmet hopen hholds himportsMet hleadsAfter merger
  · intro f hf
    rcases List.mem_append.mp hf with hf | hf
    · exact (hreach f hf).to_reflTransGen
    · obtain rfl := List.mem_singleton.mp hf
      exact .refl

theorem visits [LawfulFiles] (depth : Nat) : Visits depth := by
  induction depth with
  | zero =>
    intro path l l' files _ _ hrun
    rw [exec_loadFileWithin_zero] at hrun
    exact absurd (congrArg Prod.fst hrun) (by simp)
  | succ depth ih =>
    intro path l l' files h hleading hrun
    rw [exec_loadFileWithin_succ] at hrun
    cases hpath : Disk.canonical path with
    | error cause =>
      rw [hpath] at hrun
      exact absurd (congrArg Prod.fst hrun) (by simp)
    | ok file =>
      simp only [hpath] at hrun
      by_cases hmet : file ∈ l.met
      -- A file that was met adds nothing, whether it is registered or still on the way.
      · rw [if_pos hmet] at hrun
        obtain rfl : l = l' := congrArg Prod.snd hrun
        exact ⟨file, [], rfl, hmet, by simpa using h, .refl l, by simp⟩
      · rw [if_neg hmet] at hrun
        obtain ⟨added, hadded⟩ := ih.new h hleading hpath hmet hrun
        exact ⟨file, added, rfl, hadded⟩

/-! ## Root files -/

theorem Finished.loadAll [LawfulFiles] {roots : List String} {l l' : Loader}
    {files : List String} (h : Finished l files) (hdone : ∀ f ∈ l.met, f ∈ files)
    (hrun : (loadAll roots).exec l = (.ok (), l')) :
    ∃ added, Finished l' (files ++ added) ∧ Adds l l' added
      ∧ (∀ path ∈ roots, ∃ file, Disk.canonical path = .ok file ∧ file ∈ l'.met)
      ∧ ∀ f ∈ added, Reached l.includeDirs roots f := by
  induction roots generalizing l files with
  | nil =>
    obtain rfl : l = l' := congrArg Prod.snd hrun
    exact ⟨[], by simpa using h, .refl l, by simp, by simp⟩
  | cons path rest ih =>
    rw [Loader.loadAll, List.forM_eq_forM, List.forM_cons] at hrun
    obtain ⟨_, between, hload, hrest⟩ := exec_bind_eq_ok.mp hrun
    -- Between roots, every file that was met is registered, so none is on the way to anything.
    obtain ⟨file, added, hfile, hmet, hfinished, hadds, hreach⟩ :=
      visits _ h (fun _ _ g hg hgf => absurd (hdone g hg) hgf) hload
    obtain ⟨added', hfinished', hadds', hmets, hreach'⟩ := ih hfinished (by
      intro f hf
      rcases (hadds.met_iff f).mp hf with hf | hf
      · exact List.mem_append_left _ (hdone f hf)
      · exact List.mem_append_right _ hf) hrest
    rw [hadds.includeDirs] at hreach'
    refine ⟨added ++ added', ?_, hadds.trans hadds', ?_, ?_⟩
    · rwa [← List.append_assoc]
    · intro p hp
      rcases List.mem_cons.mp hp with rfl | hp
      · exact ⟨file, hfile, (hadds'.met_iff file).mpr (.inl hmet)⟩
      · exact hmets p hp
    · intro f hf
      rcases List.mem_append.mp hf with hf | hf
      · exact ⟨path, List.mem_cons_self, file, hfile, hreach f hf⟩
      · obtain ⟨p, hp, hreached⟩ := hreach' f hf
        exact ⟨p, List.mem_cons_of_mem _ hp, hreached⟩

/-- **Loading registers exactly the files that can be reached, each once and imports first.** Only
    what leads to its importer again may come later. -/
theorem loadAll_visits_import_graph [LawfulFiles] {includeDirs roots : List String} {l : Loader}
    (h : (loadAll roots).exec { includeDirs } = (.ok (), l)) :
    ∃ files : List String,
      files.Nodup ∧ (∀ f, f ∈ files ↔ Reached includeDirs roots f)
        ∧ List.Forall₂ Holds files l.manifests ∧ l.met.length = files.length
        ∧ ∀ f ∈ files, ∀ g, Imports includeDirs f g → ¬ TransGen (Imports includeDirs) g f →
          files.idxOf g < files.idxOf f := by
  obtain ⟨files, hfinished, hadds, hroots, hreach⟩ :=
    (finished_empty includeDirs).loadAll (by simp) h
  have hmet : ∀ f, f ∈ l.met ↔ f ∈ files := by
    simpa using hadds.met_iff
  have hdirs : l.includeDirs = includeDirs := hadds.includeDirs
  refine ⟨files, hfinished.nodup, ?_, hfinished.holds, ?_, ?_⟩
  · intro f
    constructor
    · exact hreach f
    · rintro ⟨path, hpath, root, hroot, hfrom⟩
      induction hfrom with
      | refl =>
        obtain ⟨file, hfile, hfilemet⟩ := hroots path hpath
        obtain rfl := Except.ok.inj (hroot.symm.trans hfile)
        exact (hmet root).mp hfilemet
      | tail _ hedge ih => exact (hmet _).mp (hfinished.imports_met _ ih _ (hdirs ▸ hedge))
  · exact ((List.perm_ext_iff_of_nodup hfinished.met_nodup hfinished.nodup).mpr hmet).length_eq
  · intro f hf g hg hcycle
    rw [← hdirs] at hg hcycle
    exact (hfinished.imports_first f hf g hg).resolve_right hcycle

end

/-- The text of a manifest that imports two files by their names, and declares a desk with one flag. -/
def circleText (flag : String) : String :=
  "manifest:\n  assembly: A\n  imports:\n  - path: a\n  - path: ../w/b\n"
    ++ "subjects:\n- name: Desk\n  reference: Desk\n  " ++ flag ++ ": true\n"

def desk (isStatic isUnsafe : Bool) : SubjectDecl :=
  { name := "Desk", reference := "Desk", isStatic, isUnsafe }

/-- What such a text holds. -/
def circleManifest (isStatic isUnsafe : Bool) : Manifest where
  assembly := "A"
  imports := ["a", "../w/b"]
  subjects := [desk isStatic isUnsafe]

/-- Two files that import each other and themselves, with two fragments of one desk. -/
def circle : FileTree where
  entries :=
    [(["w"], .folder), (["w", "a"], .file (some (circleText "is-static"))),
      (["w", "b"], .file (some (circleText "is-unsafe")))]
  home := ["w"]

theorem tokens_circleText : ∀ flag ∈ ["is-static", "is-unsafe"], Yaml.tokens (circleText flag)
    = [.blockMappingStart, .key, .scalar "manifest" .plain, .value, .blockMappingStart,
      .key, .scalar "assembly" .plain, .value, .scalar "A" .plain,
      .key, .scalar "imports" .plain, .value,
      .blockEntry, .blockMappingStart, .key, .scalar "path" .plain, .value,
      .scalar "a" .plain, .blockEnd,
      .blockEntry, .blockMappingStart, .key, .scalar "path" .plain, .value,
      .scalar "../w/b" .plain, .blockEnd, .blockEnd,
      .key, .scalar "subjects" .plain, .value,
      .blockEntry, .blockMappingStart, .key, .scalar "name" .plain, .value, .scalar "Desk" .plain,
      .key, .scalar "reference" .plain, .value, .scalar "Desk" .plain,
      .key, .scalar flag .plain, .value, .scalar "true" .plain, .blockEnd, .blockEnd] := by
  decide +kernel

theorem parse_circleText :
    Manifest.parse (circleText "is-static") = .ok (circleManifest true false)
      ∧ Manifest.parse (circleText "is-unsafe") = .ok (circleManifest false true) := by
  constructor
  · rw [Manifest.parse, Yaml.load, tokens_circleText _ (by simp)]
    cbv
  · rw [Manifest.parse, Yaml.load, tokens_circleText _ (by simp)]
    cbv

/-- What is loaded from the first of the two: the second one is registered before it, and its fragment
    of the desk comes first. -/
def circleLoader : Loader where
  met := ["/w/a", "/w/b"]
  manifests := [circleManifest false true, circleManifest true false]
  merger := { subjects := [desk true true] }

theorem circle_loads :
    letI := circle.frozen
    (loadAll ["a", "/w/b", "a"]).exec {} = (.ok (), circleLoader) := by
  let files := circle.frozen
  obtain ⟨hparsea, hparseb⟩ := parse_circleText
  have ha : Disk.canonical "a" = .ok "/w/a" := by decide +kernel
  have ha' : Disk.canonical "/w/a" = .ok "/w/a" := by decide +kernel
  have hb : Disk.canonical "/w/b" = .ok "/w/b" := by decide +kernel
  have hreada : Disk.read "a" = .ok (circleText "is-static") := by decide +kernel
  have hreadb : Disk.read "/w/b" = .ok (circleText "is-unsafe") := by decide +kernel
  have haa : destination [] (some "/w/a") "a" = .ok "/w/a" := by decide +kernel
  have hab : destination [] (some "/w/a") "../w/b" = .ok "/w/b" := by decide +kernel
  have hba : destination [] (some "/w/b") "a" = .ok "/w/a" := by decide +kernel
  have hbb : destination [] (some "/w/b") "../w/b" = .ok "/w/b" := by decide +kernel
  -- The imports of the second file lead to files that are met, and it is registered first.
  have hmeet : (loadImports 3 "/w/b" (circleManifest false true).imports).exec
      { met := ["/w/a", "/w/b"] } = (.ok (), { met := ["/w/a", "/w/b"] }) :=
    exec_loadImports_cons hba (exec_loadFileWithin_met ha' (by simp))
      (exec_loadImports_cons hbb (exec_loadFileWithin_met hb (by simp)) (exec_loadImports_nil _ _ _))
  have hsecond : (loadFileWithin 4 "/w/b").exec { met := ["/w/a"] }
      = (.ok (), { met := ["/w/a", "/w/b"], manifests := [circleManifest false true]
                   merger := { subjects := [desk false true] } }) :=
    exec_loadFileWithin_new hb (by simp) hreadb hparseb hmeet (by rw [exec_register]; rfl)
  have hfirst : (loadFile "a").exec {} = (.ok (), circleLoader) := by
    rw [exec_loadFile]
    exact exec_loadFileWithin_new ha (by simp) hreada hparsea
      (exec_loadImports_cons haa (exec_loadFileWithin_met ha' (by simp [mark]))
        (exec_loadImports_cons hab hsecond (exec_loadImports_nil _ _ _)))
      (by rw [exec_register]; rfl)
  exact exec_loadAll_cons hfirst
    (exec_loadAll_cons (exec_loadFile_met hb (by simp [circleLoader]))
      (exec_loadAll_cons (exec_loadFile_met ha (by simp [circleLoader])) (exec_loadAll_nil _)))

theorem loadAll_visits_circle :
    letI := circle.frozen
    (loadAll ["a", "/w/b", "a"]).exec {} = (.ok (), circleLoader)
      ∧ circleLoader.subjects = [desk true true]
      ∧ ∃ files : List String,
        files.Nodup ∧ (∀ f, f ∈ files ↔ Reached [] ["a", "/w/b", "a"] f)
          ∧ List.Forall₂ Holds files circleLoader.manifests
          ∧ circleLoader.met.length = files.length
          ∧ ∀ f ∈ files, ∀ g, Imports [] f g → ¬ TransGen (Imports []) g f →
            files.idxOf g < files.idxOf f := by
  let files := circle.frozen
  have lawful : LawfulFiles := FileTree.lawful_frozen (t := circle) (by
    intro s hs
    obtain rfl : s = "w" := by simpa [circle] using hs
    exact ⟨by decide, by decide, by decide⟩)
  exact ⟨circle_loads, rfl, loadAll_visits_import_graph circle_loads⟩

end Loader

end Companion
