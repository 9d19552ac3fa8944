import Companion.Proofs.Loading.Loadable
import Companion.Proofs.Loading.Marks

/-!
# Following imports ends

What a file imports is up to the file: itself, a file that is on the way to it, or one file under many
spellings. Nothing in the files bounds how deep loading follows them. What does is that a file is
marked before its imports are loaded, and that a marked file is left alone:

> **every load of a file returns at once or marks one more file** (`Runs.atOnce_or_marks`),

and marks are never taken back, whatever fails. So loads nest no deeper than there are files left to
mark, and one more that returns at once (`Runs.depth_le`).

A run is described here by the tree of its calls, with rules that follow the calls as they are made
and know of no bound on nesting (`Runs`). Such a tree is finite, a call has no two of them
(`Runs.unique`), and the loader does what its tree says: its own bound is never met (`loading_ends`).
-/

namespace Companion

namespace Loader

open Loading

/-! ## Calls and the calls that they make -/

/-- A call, the loader that it found, what it came to, and the calls that it made for imports. -/
structure CallTree where
  call : Call
  found : Loader
  result : CallResult
  nested : List CallTree

namespace CallTree

/-- The second call is the first one, or was made by a call that the first one contains. -/
inductive Contains : CallTree → CallTree → Prop where
  | self (t : CallTree) : Contains t t
  | nested {t c d : CallTree} (h : c ∈ t.nested) (hd : Contains c d) : Contains t d

mutual

/-- How deep loads of files are nested in a call, which itself counts if it loads a file. -/
def depth : CallTree → Nat
  | ⟨.file _, _, _, nested⟩ => depthOfAll nested + 1
  | ⟨.text _ _, _, _, nested⟩ => depthOfAll nested

def depthOfAll : List CallTree → Nat
  | [] => 0
  | c :: rest => max c.depth (depthOfAll rest)

end

theorem depthOfAll_le {calls : List CallTree} {n : Nat} (h : ∀ c ∈ calls, c.depth ≤ n) :
    depthOfAll calls ≤ n := by
  induction calls with
  | nil => exact Nat.zero_le n
  | cons c rest ih =>
    rw [depthOfAll]
    exact Nat.max_le.mpr
      ⟨h c List.mem_cons_self, ih fun c hc => h c (List.mem_cons_of_mem _ hc)⟩

/-- The call changes nothing and makes no others. -/
def AtOnce (t : CallTree) : Prop :=
  t.nested = [] ∧ t.result.2 = t.found

/-- The call marks this file, which was not marked, before it makes others, and it stays marked. -/
structure Marks (t : CallTree) (file : String) : Prop where
  fresh : file ∉ t.found.met
  nested : ∀ c ∈ t.nested, (t.found.mark file).met ⊆ c.found.met
  result : (t.found.mark file).met ⊆ t.result.2.met

end CallTree

theorem met_registered (manifest : Manifest) (r : CallResult) :
    (registered manifest r).2.met = r.2.met := by
  obtain ⟨outcome, l⟩ := r
  cases outcome with
  | error e => rfl
  | ok _ => exact exec_register_met manifest l

theorem registered_ne_unending {r : CallResult} {p : String} (h : r.1 ≠ .error (.unending p))
    (manifest : Manifest) : (registered manifest r).1 ≠ .error (.unending p) := by
  obtain ⟨_ | _, l⟩ := r
  · exact h
  · rw [registered, exec_register]
    rcases l.merger.addAll manifest.subjects with ⟨_ | _, _⟩ <;> simp

section

variable [Files Id]

/-! ## How calls run -/

/-- Calls for imports, one after another from what the one before left, and what they came to: up to
    the first import that leads nowhere, or that cannot be loaded. -/
inductive InTurn (importer : Option String) :
    List String → Loader → List CallTree → CallResult → Prop where
  | nil (l : Loader) : InTurn importer [] l [] (.ok (), l)
  | astray {path : String} {rest : List String} {l : Loader} {e : LoadError}
    (hpath : destination l.includeDirs importer path = .error e) :
    InTurn importer (path :: rest) l [] (.error e, l)
  | failed {path file : String} {rest : List String} {l l' : Loader} {e : LoadError}
    {nested : List CallTree} (hpath : destination l.includeDirs importer path = .ok file) :
    InTurn importer (path :: rest) l [⟨.file file, l, (.error e, l'), nested⟩] (.error e, l')
  | cons {path file : String} {rest : List String} {l between : Loader}
    {nested calls : List CallTree} {r : CallResult}
    (hpath : destination l.includeDirs importer path = .ok file)
    (hrest : InTurn importer rest between calls r) :
    InTurn importer (path :: rest) l (⟨.file file, l, (.ok (), between), nested⟩ :: calls) r

/-- How a call runs. Nothing here says how deep calls may nest. -/
inductive Runs : CallTree → Prop where
  | lost {path : String} {l : Loader} {cause : IoFailure}
    (hpath : Disk.canonical path = .error cause) :
    Runs ⟨.file path, l, (.error (.io path cause), l), []⟩
  | marked {path file : String} {l : Loader} (hpath : Disk.canonical path = .ok file)
    (hmet : file ∈ l.met) : Runs ⟨.file path, l, (.ok (), l), []⟩
  | unread {path file : String} {l : Loader} {e : LoadError}
    (hpath : Disk.canonical path = .ok file) (hnew : file ∉ l.met)
    (hread : manifestAt path = .error e) :
    Runs ⟨.file path, l, (.error e, l.mark file), []⟩
  | file {path file : String} {l : Loader} {manifest : Manifest} {calls : List CallTree}
    {r : CallResult} (hpath : Disk.canonical path = .ok file) (hnew : file ∉ l.met)
    (hread : manifestAt path = .ok manifest)
    (himports : InTurn (some file) manifest.imports (l.mark file) calls r)
    (hcalls : ∀ c ∈ calls, Runs c) :
    Runs ⟨.file path, l, registered manifest r, calls⟩
  | malformed {origin contents : String} {l : Loader} {f : Yaml.Fault}
    (hparse : Manifest.parse contents = .error f) :
    Runs ⟨.text origin contents, l, (.error (.ofFault origin f), l), []⟩
  | text {origin contents : String} {l : Loader} {manifest : Manifest} {calls : List CallTree}
    {r : CallResult} (hparse : Manifest.parse contents = .ok manifest)
    (himports : InTurn none manifest.imports l calls r) (hcalls : ∀ c ∈ calls, Runs c) :
    Runs ⟨.text origin contents, l, registered manifest r, calls⟩

/-! ## What a call marks -/

/-- Where each call keeps the marks that it found, marks are kept from each call to the next. -/
theorem InTurn.met_subset {importer : Option String} {imports : List String} {l : Loader}
    {calls : List CallTree} {r : CallResult} (h : InTurn importer imports l calls r)
    (hcalls : ∀ c ∈ calls, c.found.met ⊆ c.result.2.met) :
    l.met ⊆ r.2.met ∧ ∀ c ∈ calls, l.met ⊆ c.found.met := by
  induction h with
  | nil | astray => simp
  | failed _ => simpa using hcalls
  | cons _ _ ih =>
    obtain ⟨hfirst, hlater⟩ := List.forall_mem_cons.mp hcalls
    obtain ⟨hrest, hfounds⟩ := ih hlater
    refine ⟨List.Subset.trans hfirst hrest, List.forall_mem_cons.mpr ⟨List.Subset.refl _, ?_⟩⟩
    exact fun c hc => List.Subset.trans hfirst (hfounds c hc)

/-- Marks are never taken back. -/
theorem Runs.met_subset {t : CallTree} (h : Runs t) : t.found.met ⊆ t.result.2.met := by
  induction h with
  | lost | marked | malformed => exact List.Subset.refl _
  | unread => exact List.subset_append_left _ _
  | file _ _ _ himports _ ih =>
    rw [met_registered]
    exact List.Subset.trans (List.subset_append_left _ _) (himports.met_subset ih).1
  | text _ himports _ ih =>
    rw [met_registered]
    exact (himports.met_subset ih).1

theorem Runs.of_contains {t d : CallTree} (h : Runs t) (hd : t.Contains d) : Runs d := by
  induction hd with
  | self => exact h
  | nested hc _ ih =>
    refine ih ?_
    cases h with
    | lost | marked | unread | malformed => exact absurd hc List.not_mem_nil
    | file _ _ _ _ hcalls | text _ _ hcalls => exact hcalls _ hc

theorem Runs.atOnce_or_marks {t : CallTree} (h : Runs t) {path : String}
    (hcall : t.call = .file path) :
    t.AtOnce ∨ ∃ file, Disk.canonical path = .ok file ∧ t.Marks file := by
  cases h with
  | lost | marked => exact .inl ⟨rfl, rfl⟩
  | unread hpath hnew =>
    cases hcall
    exact .inr ⟨_, hpath, hnew, by simp, List.Subset.refl _⟩
  | file hpath hnew _ himports hcalls =>
    cases hcall
    obtain ⟨hresult, hfounds⟩ := himports.met_subset fun c hc => (hcalls c hc).met_subset
    refine .inr ⟨_, hpath, hnew, hfounds, ?_⟩
    rwa [met_registered]
  | malformed | text => cases hcall

theorem manifestAt_ne_unending (path p : String) : manifestAt path ≠ .error (.unending p) := by
  rw [manifestAt]
  cases Disk.read path with
  | error cause => simp [Except.mapError, bind, Except.bind]
  | ok text =>
    cases hparse : Manifest.parse text with
    | error f => cases f <;> simp [Except.mapError, bind, Except.bind, hparse, LoadError.ofFault]
    | ok manifest => simp [Except.mapError, bind, Except.bind, hparse]

theorem destination_ne_unending (includeDirs : List String) (importer : Option String)
    (path p : String) : destination includeDirs importer path ≠ .error (.unending p) := by
  rw [destination]
  split
  · next found _ => cases Disk.canonical found <;> simp [Except.mapError]
  · simp

theorem InTurn.ne_unending {importer : Option String} {imports : List String} {l : Loader}
    {calls : List CallTree} {r : CallResult} (h : InTurn importer imports l calls r) {p : String}
    (hcalls : ∀ c ∈ calls, c.result.1 ≠ .error (.unending p)) : r.1 ≠ .error (.unending p) := by
  induction h with
  | nil => simp
  | astray hpath =>
    rintro ⟨⟩
    exact destination_ne_unending _ _ _ _ hpath
  | failed _ => simpa using hcalls
  | cons _ _ ih => exact ih (List.forall_mem_cons.mp hcalls).2

/-- No call is cut off by a bound on nesting. -/
theorem Runs.ne_unending {t : CallTree} (h : Runs t) (p : String) :
    t.result.1 ≠ .error (.unending p) := by
  induction h with
  | lost | marked => simp
  | unread _ _ hread =>
    rintro ⟨⟩
    exact manifestAt_ne_unending _ _ hread
  | file _ _ _ himports _ ih => exact registered_ne_unending (himports.ne_unending ih) _
  | @malformed _ _ _ f _ => cases f <;> simp [LoadError.ofFault]
  | text _ himports _ ih => exact registered_ne_unending (himports.ne_unending ih) _

/-- **Loads nest no deeper than there are files left to mark, and one more.** What a load of a file
    nests finds one file less to mark, and marks keep that so whatever comes between. -/
theorem Runs.depth_le {files : List String}
    (hfiles : ∀ path file, Disk.canonical path = .ok file → file ∈ files) {t : CallTree}
    (h : Runs t) : t.depth ≤ t.found.unmet files + 1 := by
  induction h with
  | lost | marked | unread | malformed => simp [CallTree.depth, CallTree.depthOfAll]
  | @file path file l manifest calls r hpath hnew _ himports hcalls ih =>
    have hfounds := (himports.met_subset fun c hc => (hcalls c hc).met_subset).2
    have hless := unmet_mark_lt (hfiles path file hpath) hnew
    refine Nat.succ_le_succ (CallTree.depthOfAll_le fun c hc => ?_)
    calc c.depth ≤ c.found.unmet files + 1 := ih c hc
      _ ≤ (l.mark file).unmet files + 1 := Nat.succ_le_succ (unmet_le (hfounds c hc))
      _ ≤ l.unmet files := hless
  | @text origin contents l manifest calls r _ himports hcalls ih =>
    have hfounds := (himports.met_subset fun c hc => (hcalls c hc).met_subset).2
    refine CallTree.depthOfAll_le fun c hc => ?_
    calc c.depth ≤ c.found.unmet files + 1 := ih c hc
      _ ≤ l.unmet files + 1 := Nat.succ_le_succ (unmet_le (hfounds c hc))

/-! ## There is one tree -/

theorem InTurn.unique {importer : Option String} {imports : List String} {l : Loader}
    {calls calls' : List CallTree} {r r' : CallResult} (h : InTurn importer imports l calls r)
    (h' : InTurn importer imports l calls' r')
    (hcalls : ∀ c ∈ calls, ∀ c' ∈ calls', c.call = c'.call → c.found = c'.found → c = c') :
    calls = calls' ∧ r = r' := by
  induction h generalizing calls' r' with
  | nil =>
    cases h'
    exact ⟨rfl, rfl⟩
  | astray hpath => cases h' <;> simp_all
  | failed hpath => cases h' <;> simp_all
  | cons hpath hrest ih =>
    cases h' with
    | astray hpath' => simp_all
    | failed hpath' => simp_all
    | cons hpath' hrest' =>
      obtain rfl := Except.ok.inj (hpath.symm.trans hpath')
      have hfirst := hcalls _ List.mem_cons_self _ List.mem_cons_self rfl rfl
      cases hfirst
      obtain ⟨rfl, rfl⟩ := ih hrest' fun c hc c' hc' =>
        hcalls c (List.mem_cons_of_mem _ hc) c' (List.mem_cons_of_mem _ hc')
      exact ⟨rfl, rfl⟩

theorem Runs.unique {t t' : CallTree} (h : Runs t) (h' : Runs t') (hcall : t.call = t'.call)
    (hfound : t.found = t'.found) : t = t' := by
  induction h generalizing t' with
  | lost hpath => cases h' <;> simp_all
  | marked hpath hmet => cases h' <;> simp_all
  | unread hpath hnew hread => cases h' <;> simp_all
  | malformed hparse => cases h' <;> simp_all
  | file hpath hnew hread himports _ ih =>
    cases h' with
    | file hpath' hnew' hread' himports' hcalls' =>
      cases hcall
      cases hfound
      obtain rfl := Except.ok.inj (hpath.symm.trans hpath')
      obtain rfl := Except.ok.inj (hread.symm.trans hread')
      obtain ⟨rfl, rfl⟩ := himports.unique himports' fun c hc c' hc' => ih c hc (hcalls' c' hc')
      rfl
    | _ => simp_all
  | text hparse himports _ ih =>
    cases h' with
    | text hparse' himports' hcalls' =>
      cases hcall
      cases hfound
      obtain rfl := Except.ok.inj (hparse.symm.trans hparse')
      obtain ⟨rfl, rfl⟩ := himports.unique himports' fun c hc c' hc' => ih c hc (hcalls' c' hc')
      rfl
    | _ => simp_all

/-! ## The loader does what the tree says -/

/-- Imports that are loaded by steps that have a tree are loaded by calls in turn. -/
theorem exists_inTurn {load : String → Loading Id Unit} (importer : Option String)
    (imports : List String) {l : Loader}
    (hload : ∀ file (l' : Loader), l.met ⊆ l'.met →
      ∃ nested, Runs ⟨.file file, l', (load file).exec l', nested⟩) :
    ∃ calls, (∀ c ∈ calls, Runs c)
      ∧ InTurn importer imports l calls ((loadEach load importer imports).exec l) := by
  induction imports generalizing l with
  | nil => exact ⟨[], by simp, .nil l⟩
  | cons path rest ih =>
    rw [loadEach, List.forM_eq_forM, List.forM_cons, bind_assoc, exec_bind, exec_resolveImport]
    cases hpath : destination l.includeDirs importer path with
    | error e => exact ⟨[], by simp, .astray hpath⟩
    | ok file =>
      obtain ⟨nested, hfirst⟩ := hload file l (List.Subset.refl _)
      simp only [exec_bind]
      cases hexec : (load file).exec l with
      | mk outcome between =>
        rw [hexec] at hfirst
        cases outcome with
        | error e => exact ⟨[_], by simpa using hfirst, .failed hpath⟩
        | ok _ =>
          obtain ⟨calls, hcalls, hrest⟩ := ih fun file l' hl' =>
            hload file l' (List.Subset.trans hfirst.met_subset hl')
          exact ⟨_ :: calls, List.forall_mem_cons.mpr ⟨hfirst, hcalls⟩, .cons hpath hrest⟩

/-- A load that may nest deeper than there are files to mark has a tree. -/
theorem exists_runs_loadFileWithin {files : List String}
    (hfiles : ∀ path file, Disk.canonical path = .ok file → file ∈ files) {depth : Nat}
    {path : String} {l : Loader} (hunmet : l.unmet files < depth) :
    ∃ nested, Runs ⟨.file path, l, (loadFileWithin depth path).exec l, nested⟩ := by
  induction depth generalizing path l with
  | zero => exact absurd hunmet (Nat.not_lt_zero _)
  | succ depth ih =>
    rw [exec_loadFileWithin_succ]
    cases hpath : Disk.canonical path with
    | error cause => exact ⟨[], .lost hpath⟩
    | ok file =>
      by_cases hmet : file ∈ l.met
      · simp only [if_pos hmet]
        exact ⟨[], .marked hpath hmet⟩
      · simp only [if_neg hmet, exec_loadNew_eq]
        cases hread : manifestAt path with
        | error e => exact ⟨[], .unread hpath hmet hread⟩
        | ok manifest =>
          have hless := unmet_mark_lt (hfiles path file hpath) hmet
          have hmarked : (l.mark file).unmet files < depth :=
            Nat.lt_of_lt_of_le hless (Nat.le_of_lt_succ hunmet)
          obtain ⟨calls, hcalls, himports⟩ := exists_inTurn (some file) manifest.imports
            fun file l' hl' => ih (Nat.lt_of_le_of_lt (unmet_le hl') hmarked)
          exact ⟨calls, .file hpath hmet hread himports hcalls⟩

theorem exists_runs [BoundedFiles] (c : Call) (l : Loader) :
    ∃ nested, Runs ⟨c, l, c.run.exec l, nested⟩ := by
  have hfile (path : String) (l : Loader) :
      ∃ nested, Runs ⟨.file path, l, (loadFile path).exec l, nested⟩ := by
    obtain ⟨files, hbound, hfiles⟩ := BoundedFiles.bounded
    have hunmet : l.unmet files < Disk.pathBound + 1 :=
      Nat.lt_succ_of_le (Nat.le_trans (unmet_le_length files l) hbound)
    rw [exec_loadFile]
    exact exists_runs_loadFileWithin hfiles hunmet
  cases c with
  | file path => exact hfile path l
  | text origin contents =>
    rw [Call.run, exec_loadText]
    cases hparse : Manifest.parse contents with
    | error f => exact ⟨[], .malformed hparse⟩
    | ok manifest =>
      obtain ⟨calls, hcalls, himports⟩ :=
        exists_inTurn none manifest.imports fun file l' (_ : l.met ⊆ l'.met) => hfile file l'
      exact ⟨calls, .text hparse himports hcalls⟩

/-- **Following imports ends**, whatever files hold: a call has one tree of calls, and comes to what
    the tree says. Every load of a file in it returns at once or marks one more file, so that loads
    nest no deeper than there are files left to mark, and one more that returns at once. -/
theorem loading_ends [BoundedFiles] (c : Call) (l : Loader) :
    ∃ t, Runs t ∧ t.call = c ∧ t.found = l ∧ t.result = c.run.exec l
      ∧ (∀ t', Runs t' → t'.call = c → t'.found = l → t' = t)
      ∧ (∀ p, t.result.1 ≠ .error (.unending p))
      ∧ (∀ d path, t.Contains d → d.call = .file path →
        d.AtOnce ∨ ∃ file, Disk.canonical path = .ok file ∧ d.Marks file)
      ∧ ∀ files, (∀ path file, Disk.canonical path = .ok file → file ∈ files) →
        t.depth ≤ l.unmet files + 1 := by
  obtain ⟨nested, hruns⟩ := exists_runs c l
  exact ⟨_, hruns, rfl, rfl, rfl, fun t' h' hcall hfound => h'.unique hruns hcall hfound,
    hruns.ne_unending, fun d path hd hcall => (hruns.of_contains hd).atOnce_or_marks hcall,
    fun files hfiles => hruns.depth_le hfiles⟩

end

/-- Two files that import each other and themselves, the second by a path that steps back. Of the four
    paths of the tree, two are marked. -/
theorem loading_ends_circle :
    letI := circle.frozen
    let l : Loader := { met := ["/", "/w"] }
    BoundedFiles ∧ ∃ t, Runs t ∧ t.call = .file "a" ∧ t.found = l
      ∧ t.result = (Call.file "a").run.exec l
      ∧ (∀ t', Runs t' → t'.call = .file "a" → t'.found = l → t' = t)
      ∧ (∀ p, t.result.1 ≠ .error (.unending p))
      ∧ (∀ d path, t.Contains d → d.call = .file path →
        d.AtOnce ∨ ∃ file, Disk.canonical path = .ok file ∧ d.Marks file)
      ∧ t.depth ≤ 3 := by
  let files := circle.frozen
  have bounded : BoundedFiles := FileTree.bounded_frozen circle
  obtain ⟨t, hruns, hcall, hfound, hresult, hunique, hends, hmarks, hdepth⟩ :=
    loading_ends (.file "a") { met := ["/", "/w"] }
  have hunmet : unmet circle.paths { met := ["/", "/w"] } = 2 := by decide +kernel
  have hle := hdepth circle.paths fun path file => FileTree.mem_paths_of_canonical
  rw [hunmet] at hle
  exact ⟨bounded, t, hruns, hcall, hfound, hresult, hunique, hends, hmarks, hle⟩

end Loader

end Companion
