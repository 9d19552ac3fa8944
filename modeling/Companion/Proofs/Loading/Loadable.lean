import Companion.Proofs.FragmentOrder
import Companion.Proofs.Loading.ImportGraph

/-!
# When loading succeeds

Loading goes through the import graph in an order that depends on everything it meets. Whether it
succeeds can be said without that order: every path on the way has to open, and fragments of one
subject have to agree (`Loadable`).

> **loading succeeds exactly if what can be reached is loadable** (`exists_loadAll_iff`).

A file may be reached by several paths and is read by the first of them, whichever that is. Reading
may be refused for one spelling of a path and not for another, so the equivalence is about file
systems that do not tell the paths of one file apart (`ReadableAlike`); that loadable files are loaded
holds in any case.

The bound on nesting is no obstacle, since every nested load marks one more file.
-/

namespace Companion

open Relation

namespace Loader

open Loading

/-! ## Files that are still to be met -/

/-- How many of the files were not met yet. -/
def unmet (files : List String) (l : Loader) : Nat :=
  (files.toFinset \ l.met.toFinset).card

theorem unmet_le {files : List String} {l l' : Loader} (h : ∀ f ∈ l.met, f ∈ l'.met) :
    l'.unmet files ≤ l.unmet files := by
  refine Finset.card_le_card (Finset.sdiff_subset_sdiff (Finset.Subset.refl _) fun f hf => ?_)
  rw [List.mem_toFinset] at hf ⊢
  exact h f hf

theorem unmet_le_length (files : List String) (l : Loader) : l.unmet files ≤ files.length :=
  calc l.unmet files ≤ files.toFinset.card := Finset.card_le_card Finset.sdiff_subset
    _ ≤ files.length := List.toFinset_card_le files

theorem unmet_mark_lt {files : List String} {l : Loader} {file : String} (hfile : file ∈ files)
    (hnew : file ∉ l.met) : (l.mark file).unmet files < l.unmet files := by
  refine Finset.card_lt_card ⟨?_, fun hsubset => ?_⟩
  · refine Finset.sdiff_subset_sdiff (Finset.Subset.refl _) fun f hf => ?_
    rw [List.mem_toFinset] at hf ⊢
    exact List.mem_append_left _ hf
  · have hmem : file ∈ files.toFinset \ l.met.toFinset := by
      simp [hfile, hnew]
    have hmarked := hsubset hmem
    simp [Loader.mark] at hmarked

section

variable [Files Id] {includeDirs roots : List String}

/-! ## What is on the way -/

/-- A path that loading may take to a file: a root, or what an import of a reached file leads to. -/
inductive Route (includeDirs roots : List String) : String → Prop where
  | root {path : String} (h : path ∈ roots) : Route includeDirs roots path
  | imported {importer path : String} (hreached : Reached includeDirs roots importer)
    (himports : Imports includeDirs importer path) : Route includeDirs roots path

/-- What can be read by one route can be read by every route to the same file. -/
def ReadableAlike (includeDirs roots : List String) : Prop :=
  ∀ path path' file text, Route includeDirs roots path → Route includeDirs roots path' →
    Disk.canonical path = .ok file → Disk.canonical path' = .ok file →
      Disk.read path = .ok text → Disk.read path' = .ok text

/-- The path leads to a file, where a manifest is read from whose imports lead to files again. -/
structure Opens (includeDirs : List String) (path file : String) (manifest : Manifest) : Prop where
  canonical : Disk.canonical path = .ok file
  readable : ∃ text, Disk.read path = .ok text ∧ Manifest.parse text = .ok manifest
  imports : ∀ i ∈ manifest.imports, ∃ imported,
    destination includeDirs (some file) i = .ok imported ∧ Disk.canonical imported = .ok imported

/-- The subject, or fragment, is declared in a file that is reached. -/
def Declared (includeDirs roots : List String) (s : SubjectDecl) : Prop :=
  ∃ file manifest, Reached includeDirs roots file ∧ Holds file manifest ∧ s ∈ manifest.subjects

/-- Nothing stands against loading the roots: all routes open, and fragments agree. -/
structure Loadable (includeDirs roots : List String) : Prop where
  opens : ∀ path, Route includeDirs roots path →
    ∃ file manifest, Opens includeDirs path file manifest
  agree : ∀ s s', Declared includeDirs roots s → Declared includeDirs roots s' →
    s.reference = s'.reference → s.Agrees s'

theorem Opens.holds {path file : String} {manifest : Manifest}
    (h : Opens includeDirs path file manifest) : Holds file manifest :=
  let ⟨text, hread, hparse⟩ := h.readable
  ⟨path, text, h.canonical, hread, hparse⟩

theorem Route.reached [LawfulFiles] {path file : String} (h : Route includeDirs roots path)
    (hfile : Disk.canonical path = .ok file) : Reached includeDirs roots file := by
  cases h with
  | root hroot => exact ⟨path, hroot, file, hfile, .refl⟩
  | imported hreached himports =>
    obtain ⟨manifest, hholds, i, hi, hdestination⟩ := himports
    obtain ⟨found, hfound⟩ := canonical_of_destination hdestination
    -- An import leads to a canonical path, so that the file is that path.
    obtain rfl := LawfulFiles.canonical_unique hfound hfile
    obtain ⟨root, hroot, start, hstart, hway⟩ := hreached
    exact ⟨root, hroot, start, hstart, hway.tail ⟨manifest, hholds, i, hi, hdestination⟩⟩

theorem Route.of_import [LawfulFiles] {path file imported i : String} {manifest : Manifest}
    (h : Route includeDirs roots path) (hopens : Opens includeDirs path file manifest)
    (hi : i ∈ manifest.imports)
    (hdestination : destination includeDirs (some file) i = .ok imported) :
    Route includeDirs roots imported :=
  .imported (h.reached hopens.canonical) ⟨manifest, hopens.holds, i, hi, hdestination⟩

/-! ## What success says -/

/-- The file was opened, by one of its routes. -/
def Opened (includeDirs roots : List String) (file : String) : Prop :=
  ∃ path manifest, Route includeDirs roots path ∧ Opens includeDirs path file manifest

/-- Where loading a path succeeds, every file that it marks was opened. -/
def OpensAll (includeDirs roots : List String) (depth : Nat) : Prop :=
  ∀ {path : String} {l l' : Loader}, l.includeDirs = includeDirs → Route includeDirs roots path →
    (loadFileWithin depth path : Loading Id Unit).exec l = (.ok (), l') →
    l'.includeDirs = includeDirs ∧ (∃ file, Disk.canonical path = .ok file)
      ∧ ∀ f ∈ l'.met, f ∉ l.met → Opened includeDirs roots f

theorem OpensAll.imports [LawfulFiles] {depth : Nat} (ih : OpensAll includeDirs roots depth)
    {file : String} {imports : List String} {l l' : Loader} (hdirs : l.includeDirs = includeDirs)
    (hroutes : ∀ i ∈ imports, ∀ imported,
      destination includeDirs (some file) i = .ok imported → Route includeDirs roots imported)
    (hrun : (loadImports depth file imports).exec l = (.ok (), l')) :
    l'.includeDirs = includeDirs
      ∧ (∀ i ∈ imports, ∃ imported, destination includeDirs (some file) i = .ok imported
        ∧ Disk.canonical imported = .ok imported)
      ∧ ∀ f ∈ l'.met, f ∉ l.met → Opened includeDirs roots f := by
  induction imports generalizing l with
  | nil =>
    obtain rfl : l = l' := congrArg Prod.snd hrun
    exact ⟨hdirs, by simp, fun f hf hnew => absurd hf hnew⟩
  | cons i rest ihrest =>
    obtain ⟨imported, between, hdestination, hload, hrest⟩ := loadImports_cons_eq_ok hrun
    rw [hdirs] at hdestination
    obtain ⟨hdirs', ⟨again, hagain⟩, hopened⟩ :=
      ih hdirs (hroutes i List.mem_cons_self imported hdestination) hload
    obtain ⟨found, hfound⟩ := canonical_of_destination hdestination
    obtain rfl := LawfulFiles.canonical_unique hfound hagain
    obtain ⟨hdirs'', hothers, hopened'⟩ :=
      ihrest hdirs' (fun j hj => hroutes j (List.mem_cons_of_mem i hj)) hrest
    refine ⟨hdirs'', ?_, fun f hf hnew => ?_⟩
    · intro j hj
      rcases List.mem_cons.mp hj with rfl | hj
      · exact ⟨again, hdestination, hagain⟩
      · exact hothers j hj
    · by_cases hbetween : f ∈ between.met
      · exact hopened f hbetween hnew
      · exact hopened' f hf hbetween

theorem opensAll [LawfulFiles] (depth : Nat) : OpensAll includeDirs roots depth := by
  induction depth with
  | zero =>
    intro path l l' _ _ hrun
    rw [exec_loadFileWithin_zero] at hrun
    exact absurd (congrArg Prod.fst hrun) (by simp)
  | succ depth ih =>
    intro path l l' hdirs hroute hrun
    rw [exec_loadFileWithin_succ] at hrun
    cases hpath : Disk.canonical path with
    | error cause =>
      rw [hpath] at hrun
      exact absurd (congrArg Prod.fst hrun) (by simp)
    | ok file =>
      simp only [hpath] at hrun
      by_cases hmet : file ∈ l.met
      · rw [if_pos hmet] at hrun
        obtain rfl : l = l' := congrArg Prod.snd hrun
        exact ⟨hdirs, ⟨file, rfl⟩, fun f hf hnew => absurd hf hnew⟩
      · rw [if_neg hmet] at hrun
        obtain ⟨text, manifest, between, hread, hparse, himports, hregister⟩ := loadNew_eq_ok hrun
        have hholds : Holds file manifest := ⟨path, text, hpath, hread, hparse⟩
        obtain ⟨hdirs', hothers, hopened⟩ := ih.imports (l := l.mark file) hdirs
          (fun i hi imported hdestination => .imported (hroute.reached hpath)
            ⟨manifest, hholds, i, hi, hdestination⟩) himports
        obtain ⟨merger, -, rfl⟩ := register_eq_ok hregister
        refine ⟨hdirs', ⟨file, rfl⟩, fun f hf hnew => ?_⟩
        -- Of the files that are marked, this one is opened here and the others below.
        by_cases hfile : f = file
        · subst hfile
          exact ⟨path, manifest, hroute, hpath, ⟨text, hread, hparse⟩, hothers⟩
        · refine hopened f hf fun hmark => ?_
          rcases List.mem_append.mp hmark with hmark | hmark
          · exact hnew hmark
          · exact hfile (List.mem_singleton.mp hmark)

theorem opened_of_loadAll [LawfulFiles] {part : List String} {l l' : Loader}
    (hdirs : l.includeDirs = includeDirs) (hpart : ∀ path ∈ part, path ∈ roots)
    (hrun : (loadAll part).exec l = (.ok (), l')) :
    (∀ path ∈ part, ∃ file, Disk.canonical path = .ok file)
      ∧ ∀ f ∈ l'.met, f ∉ l.met → Opened includeDirs roots f := by
  induction part generalizing l with
  | nil =>
    obtain rfl : l = l' := congrArg Prod.snd hrun
    exact ⟨by simp, fun f hf hnew => absurd hf hnew⟩
  | cons path rest ih =>
    rw [loadAll, List.forM_eq_forM, List.forM_cons] at hrun
    obtain ⟨_, between, hload, hrest⟩ := exec_bind_eq_ok.mp hrun
    obtain ⟨hdirs', hfile, hopened⟩ :=
      opensAll _ hdirs (.root (hpart path List.mem_cons_self)) hload
    obtain ⟨hfiles, hopened'⟩ :=
      ih hdirs' (fun p hp => hpart p (List.mem_cons_of_mem path hp)) hrest
    refine ⟨?_, fun f hf hnew => ?_⟩
    · intro p hp
      rcases List.mem_cons.mp hp with rfl | hp
      · exact hfile
      · exact hfiles p hp
    · by_cases hbetween : f ∈ between.met
      · exact hopened f hbetween hnew
      · exact hopened' f hf hbetween

/-- What a successful load has registered: the manifests of the reached files, each once. The files
    that are marked then are the reached ones, and the merged subjects are those of the manifests. -/
theorem loadAll_registers [LawfulFiles] {l : Loader}
    (h : (loadAll roots).exec { includeDirs } = (.ok (), l)) :
    ∃ files : List String,
      files.Nodup ∧ (∀ f, f ∈ files ↔ Reached includeDirs roots f) ∧ l.met.Perm files
        ∧ List.Forall₂ Holds files l.manifests
        ∧ Merger.addAll {} (l.manifests.flatMap (·.subjects)) = (.ok (), l.merger) := by
  obtain ⟨files, hfinished, hadds, hroots, hreach⟩ :=
    (finished_empty includeDirs).loadAll (by simp) h
  have hdirs : l.includeDirs = includeDirs := hadds.includeDirs
  have hmet : ∀ f, f ∈ l.met ↔ f ∈ files := by
    simpa using hadds.met_iff
  refine ⟨files, hfinished.nodup, fun f => ⟨hreach f, ?_⟩,
    (List.perm_ext_iff_of_nodup hfinished.met_nodup hfinished.nodup).mpr hmet,
    hfinished.holds, ?_⟩
  · rintro ⟨path, hpath, root, hroot, hway⟩
    induction hway with
    | refl =>
      obtain ⟨file, hfile, hmarked⟩ := hroots path hpath
      obtain rfl := Except.ok.inj (hroot.symm.trans hfile)
      exact (hmet root).mp hmarked
    | tail _ hedge ih => exact (hmet _).mp (hfinished.imports_met _ ih _ (hdirs ▸ hedge))
  · obtain ⟨t, ht⟩ := compositional_traced.forM traced_loadFile roots { includeDirs }
    have hrun : (roots.forM loadFile : Loading Id Unit).exec { includeDirs } = (.ok (), l) := h
    rw [hrun] at ht
    have hsubjects := ht.merger
    rw [Taken.subjects, ht.leftover_eq_nil, List.append_nil] at hsubjects
    rw [ht.manifests]
    exact hsubjects

theorem mem_of_holds [LawfulFiles] {files : List String} {manifests : List Manifest} {f : String}
    {manifest : Manifest} (hholds : List.Forall₂ Holds files manifests) (hf : f ∈ files)
    (h : Holds f manifest) : manifest ∈ manifests := by
  induction hholds with
  | nil => exact absurd hf List.not_mem_nil
  | cons hfirst _ ih =>
    rcases List.mem_cons.mp hf with rfl | hf
    · exact h.unique hfirst ▸ List.mem_cons_self
    · exact List.mem_cons_of_mem _ (ih hf)

theorem loadable_of_loadAll [LawfulFiles] (hread : ReadableAlike includeDirs roots) {l : Loader}
    (h : (loadAll roots).exec { includeDirs } = (.ok (), l)) : Loadable includeDirs roots := by
  obtain ⟨files, -, hreached, hmet, hholds, hmerged⟩ := loadAll_registers h
  obtain ⟨hroots, hopened⟩ :=
    opened_of_loadAll (l := { includeDirs }) rfl (fun path hpath => hpath) h
  have hopened : ∀ f, Reached includeDirs roots f → Opened includeDirs roots f := fun f hf =>
    hopened f (hmet.mem_iff.mpr ((hreached f).mpr hf)) List.not_mem_nil
  constructor
  · intro path hroute
    have hfile : ∃ file, Disk.canonical path = .ok file := by
      cases hroute with
      | root hroot => exact hroots path hroot
      | imported himporter himports =>
        obtain ⟨way, manifest, hway, hopens⟩ := hopened _ himporter
        obtain ⟨manifest', hholds', i, hi, hdestination⟩ := himports
        obtain rfl := hopens.holds.unique hholds'
        obtain ⟨imported, himported, hcanonical⟩ := hopens.imports i hi
        obtain rfl := Except.ok.inj (hdestination.symm.trans himported)
        exact ⟨path, hcanonical⟩
    obtain ⟨file, hfile⟩ := hfile
    -- The file was opened by some route. That is as good as this one.
    obtain ⟨way, manifest, hway, hopens⟩ := hopened file (hroute.reached hfile)
    obtain ⟨text, htext, hparse⟩ := hopens.readable
    have htext' := hread way path file text hway hroute hopens.canonical hfile htext
    exact ⟨file, manifest, hfile, ⟨text, htext', hparse⟩, hopens.imports⟩
  · have hmem : ∀ s, Declared includeDirs roots s → s ∈ l.manifests.flatMap (·.subjects) := by
      rintro s ⟨f, manifest, hf, hholds', hs⟩
      have hmanifest := mem_of_holds hholds ((hreached f).mpr hf) hholds'
      exact List.mem_flatMap.mpr ⟨manifest, hmanifest, hs⟩
    have hconsistent := Merger.exists_addAll_iff.mp ⟨l.merger, hmerged⟩
    exact fun s s' hs hs' => hconsistent s (hmem s hs) s' (hmem s' hs')

/-! ## What is loadable is loaded -/

/-- The loader may go on: it has merged nothing but what is declared on the way. -/
structure Fits (includeDirs roots : List String) (l : Loader) : Prop where
  dirs : l.includeDirs = includeDirs
  merged : ∃ history, Merger.addAll {} history = (.ok (), l.merger)
    ∧ ∀ s ∈ history, Declared includeDirs roots s

theorem fits_empty : Fits includeDirs roots { includeDirs } :=
  ⟨rfl, [], rfl, by simp⟩

theorem Fits.mark {l : Loader} (h : Fits includeDirs roots l) (file : String) :
    Fits includeDirs roots (l.mark file) :=
  ⟨h.dirs, h.merged⟩

theorem Loadable.register (h : Loadable includeDirs roots) {l : Loader}
    (hl : Fits includeDirs roots l) {manifest : Manifest}
    (hdeclared : ∀ s ∈ manifest.subjects, Declared includeDirs roots s) :
    ∃ l', (register manifest : Loading Id Unit).exec l = (.ok (), l')
      ∧ Fits includeDirs roots l' ∧ l'.met = l.met := by
  obtain ⟨history, hhistory, hall⟩ := hl.merged
  have hall' : ∀ s ∈ history ++ manifest.subjects, Declared includeDirs roots s := by
    intro s hs
    rcases List.mem_append.mp hs with hs | hs
    · exact hall s hs
    · exact hdeclared s hs
  obtain ⟨merger, hmerger⟩ := Merger.exists_addAll_iff.mpr
    fun s hs s' hs' => h.agree s s' (hall' s hs) (hall' s' hs')
  have hadd := hmerger
  rw [Merger.addAll_append hhistory] at hadd
  refine ⟨{ l with merger, manifests := l.manifests ++ [manifest] }, ?_,
    ⟨hl.dirs, _, hmerger, hall'⟩, rfl⟩
  rw [exec_register, hadd]

/-- Loading goes through as long as it may nest deeper than there are files to be met. -/
def Proceeds (includeDirs roots files : List String) (depth : Nat) : Prop :=
  ∀ {path : String} {l : Loader}, Route includeDirs roots path → Fits includeDirs roots l →
    l.unmet files < depth →
      ∃ l', (loadFileWithin depth path : Loading Id Unit).exec l = (.ok (), l')
        ∧ Fits includeDirs roots l' ∧ ∀ f ∈ l.met, f ∈ l'.met

theorem Proceeds.imports {files : List String} {depth : Nat}
    (ih : Proceeds includeDirs roots files depth) {file : String} {imports : List String}
    {l : Loader} (hl : Fits includeDirs roots l) (hunmet : l.unmet files < depth)
    (hroutes : ∀ i ∈ imports, ∃ imported,
      destination includeDirs (some file) i = .ok imported ∧ Route includeDirs roots imported) :
    ∃ l', (loadImports depth file imports).exec l = (.ok (), l')
      ∧ Fits includeDirs roots l' ∧ ∀ f ∈ l.met, f ∈ l'.met := by
  induction imports generalizing l with
  | nil => exact ⟨l, rfl, hl, fun f hf => hf⟩
  | cons i rest ihrest =>
    obtain ⟨imported, hdestination, hroute⟩ := hroutes i List.mem_cons_self
    obtain ⟨between, hload, hbetween, hmet⟩ := ih hroute hl hunmet
    obtain ⟨l', hrest, hl', hmet'⟩ := ihrest hbetween
      (Nat.lt_of_le_of_lt (unmet_le hmet) hunmet)
      (fun j hj => hroutes j (List.mem_cons_of_mem i hj))
    refine ⟨l', ?_, hl', fun f hf => hmet' f (hmet f hf)⟩
    exact exec_loadImports_cons (by rw [hl.dirs, hdestination]) hload hrest

/-- Each nested load has one file less to meet, so that the bound is never met. -/
theorem Loadable.proceeds [LawfulFiles] (h : Loadable includeDirs roots) {files : List String}
    (hfiles : ∀ path file, Disk.canonical path = .ok file → file ∈ files) (depth : Nat) :
    Proceeds includeDirs roots files depth := by
  induction depth with
  | zero => exact fun _ _ hunmet => absurd hunmet (Nat.not_lt_zero _)
  | succ depth ih =>
    intro path l hroute hl hunmet
    obtain ⟨file, manifest, hopens⟩ := h.opens path hroute
    by_cases hmet : file ∈ l.met
    · exact ⟨l, exec_loadFileWithin_met hopens.canonical hmet, hl, fun f hf => hf⟩
    · have hless := unmet_mark_lt (hfiles path file hopens.canonical) hmet
      obtain ⟨text, hread, hparse⟩ := hopens.readable
      obtain ⟨between, himports, hbetween, hkept⟩ := ih.imports (hl.mark file)
        (Nat.lt_of_lt_of_le hless (Nat.le_of_lt_succ hunmet)) (fun i hi => by
          obtain ⟨imported, hdestination, -⟩ := hopens.imports i hi
          exact ⟨imported, hdestination, hroute.of_import hopens hi hdestination⟩)
      obtain ⟨l', hregister, hl', hsame⟩ := h.register hbetween fun s hs =>
        ⟨file, manifest, hroute.reached hopens.canonical, hopens.holds, hs⟩
      refine ⟨l', ?_, hl', fun f hf => hsame ▸ hkept f (List.mem_append_left _ hf)⟩
      exact exec_loadFileWithin_new hopens.canonical hmet hread hparse himports hregister

theorem Loadable.loadAll [LawfulFiles] [BoundedFiles] (h : Loadable includeDirs roots)
    {part : List String} (hpart : ∀ path ∈ part, path ∈ roots) {l : Loader}
    (hl : Fits includeDirs roots l) : ∃ l', (loadAll part).exec l = (.ok (), l') := by
  obtain ⟨files, hbound, hfiles⟩ := BoundedFiles.bounded
  induction part generalizing l with
  | nil => exact ⟨l, rfl⟩
  | cons path rest ih =>
    have hunmet : l.unmet files < Disk.pathBound + 1 :=
      Nat.lt_succ_of_le (Nat.le_trans (unmet_le_length files l) hbound)
    obtain ⟨between, hload, hbetween, -⟩ :=
      h.proceeds hfiles _ (.root (hpart path List.mem_cons_self)) hl hunmet
    obtain ⟨l', hrest⟩ := ih (fun p hp => hpart p (List.mem_cons_of_mem path hp)) hbetween
    exact ⟨l', exec_loadAll_cons hload hrest⟩

/-- **Loading succeeds exactly if everything on the way is loadable.** -/
theorem exists_loadAll_iff [LawfulFiles] [BoundedFiles] (hread : ReadableAlike includeDirs roots) :
    (∃ l, (loadAll roots).exec { includeDirs } = (.ok (), l)) ↔ Loadable includeDirs roots :=
  ⟨fun ⟨_, h⟩ => loadable_of_loadAll hread h, fun h => h.loadAll (fun _ hpath => hpath) fits_empty⟩

/-! ## The order of the roots -/

section

variable {roots' : List String}

theorem Reached.perm {f : String} (h : Reached includeDirs roots f) (hperm : roots.Perm roots') :
    Reached includeDirs roots' f :=
  let ⟨path, hpath, hway⟩ := h
  ⟨path, hperm.mem_iff.mp hpath, hway⟩

theorem Route.perm {path : String} (h : Route includeDirs roots path)
    (hperm : roots.Perm roots') : Route includeDirs roots' path := by
  cases h with
  | root hroot => exact .root (hperm.mem_iff.mp hroot)
  | imported hreached himports => exact .imported (hreached.perm hperm) himports

theorem ReadableAlike.perm (h : ReadableAlike includeDirs roots) (hperm : roots.Perm roots') :
    ReadableAlike includeDirs roots' :=
  fun path path' file text hpath hpath' =>
    h path path' file text (hpath.perm hperm.symm) (hpath'.perm hperm.symm)

theorem Loadable.perm (h : Loadable includeDirs roots) (hperm : roots.Perm roots') :
    Loadable includeDirs roots' where
  opens := fun path hpath => h.opens path (hpath.perm hperm.symm)
  agree := by
    rintro s s' ⟨f, m, hf, hm, hs⟩ ⟨f', m', hf', hm', hs'⟩
    exact h.agree s s' ⟨f, m, hf.perm hperm.symm, hm, hs⟩ ⟨f', m', hf'.perm hperm.symm, hm', hs'⟩

end

end

end Loader

end Companion
