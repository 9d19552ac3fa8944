import Companion.Proofs.Loading.Loadable

/-!
# Roots in another order

The order of the root files decides which fragment of a subject comes first, and with that the order
of its members and the place that it is reported at. It decides nothing that matters more:

> **loading succeeds in one order exactly if it does in the other** (`loadAll_perm`),

the same files are registered, and the subjects resemble each other, so that the same becomes of them.

It takes that reading a file does not depend on the path that leads to it. A path may be refused for
its length alone where another one to the same file is not, and then it does depend on the order
whether the refused path is ever read (`loadAll_roundabout`). Where all paths are short enough, files
are readable alike (`readableAlike_frozen`).
-/

namespace Companion

namespace Loader

open Loading

/-- The loaders have met the same files and have the same manifests of them, and their subjects, one
    for each reference, differ at most in what the order of the fragments decides. -/
structure SameUpToOrder (l l' : Loader) : Prop where
  met : l.met.Perm l'.met
  manifests : l.manifests.Perm l'.manifests
  references : (l.subjects.map (·.reference)).Perm (l'.subjects.map (·.reference))
  resembles : ∀ s ∈ l.subjects, ∀ s' ∈ l'.subjects, s.reference = s'.reference → s.Resembles s'

section

variable [Files Id] [LawfulFiles] {includeDirs roots roots' : List String} {l l' : Loader}

/-- The manifests of the same files are the same, in the order of the files. -/
theorem manifests_perm {files files' : List String} {manifests manifests' : List Manifest}
    (hperm : files.Perm files') (h : List.Forall₂ Holds files manifests)
    (h' : List.Forall₂ Holds files' manifests') : manifests.Perm manifests' := by
  obtain ⟨between, hbetween, hmanifests⟩ := List.perm_comp_forall₂ hperm h'
  have hunique : Relator.RightUnique Holds := fun _ _ _ => Holds.unique
  obtain rfl := List.right_unique_forall₂' hunique h hbetween
  exact hmanifests

theorem sameUpToOrder_of_perm (hperm : roots.Perm roots')
    (h : (loadAll roots).exec { includeDirs } = (.ok (), l))
    (h' : (loadAll roots').exec { includeDirs } = (.ok (), l')) : SameUpToOrder l l' := by
  obtain ⟨files, hnodup, hreached, hmet, hholds, hmerged⟩ := loadAll_registers h
  obtain ⟨files', hnodup', hreached', hmet', hholds', hmerged'⟩ := loadAll_registers h'
  have hfiles : files.Perm files' := by
    rw [List.perm_ext_iff_of_nodup hnodup hnodup']
    intro f
    rw [hreached, hreached']
    exact ⟨fun hf => hf.perm hperm, fun hf => hf.perm hperm.symm⟩
  have hmanifests := manifests_perm hfiles hholds hholds'
  obtain ⟨hreferences, hresembles⟩ :=
    Merger.addAll_perm (hmanifests.flatMap_right _) hmerged hmerged'
  exact ⟨hmet.trans (hfiles.trans hmet'.symm), hmanifests, hreferences, hresembles⟩

/-- **The order of the roots does not matter** for whether they are loaded, as far as files are
    readable alike, for what is registered then, and for what becomes of a subject and of its
    properties. -/
theorem loadAll_perm [BoundedFiles] (hperm : roots.Perm roots') :
    (ReadableAlike includeDirs roots →
        ((∃ l, (loadAll roots).exec { includeDirs } = (.ok (), l))
          ↔ ∃ l, (loadAll roots').exec { includeDirs } = (.ok (), l)))
      ∧ ∀ l l', (loadAll roots).exec { includeDirs } = (.ok (), l) →
        (loadAll roots').exec { includeDirs } = (.ok (), l') →
          SameUpToOrder l l'
          ∧ ∀ s ∈ l.subjects, ∀ s' ∈ l'.subjects, s.reference = s'.reference →
            (∀ o, (s.model.generate o).fate = (s'.model.generate o).fate)
            ∧ ∀ name, (s.model.findProperty? name).map (·.modifiers.isReadOnly)
              = (s'.model.findProperty? name).map (·.modifiers.isReadOnly) := by
  refine ⟨fun hread => ?_, fun l l' h h' => ?_⟩
  · rw [exists_loadAll_iff hread, exists_loadAll_iff (hread.perm hperm)]
    exact ⟨fun h => h.perm hperm, fun h => h.perm hperm.symm⟩
  · have hsame := sameUpToOrder_of_perm hperm h h'
    refine ⟨hsame, fun s hs s' hs' hreference => ?_⟩
    have hresembles := hsame.resembles s hs s' hs' hreference
    refine ⟨fun o => ?_, hresembles.isReadOnly_eq⟩
    rw [SubjectDecl.fate_generate, SubjectDecl.fate_generate, hresembles.fate_eq]

end

/-! ## Trees of files -/

/-- Where neither a root nor the path of an entry is too long, files are readable alike. -/
theorem readableAlike_frozen {t : FileTree} (hhome : t.HomeNamed)
    {includeDirs roots : List String}
    (hroots : ∀ path ∈ roots, FileTree.accept path = .ok ())
    (hentries : ∀ e ∈ t.entries, FileTree.accept (Path.ofSegments e.1) = .ok ()) :
    letI := t.frozen
    ReadableAlike includeDirs roots := by
  let files := t.frozen
  have haccept : ∀ path, Route includeDirs roots path → FileTree.accept path = .ok () := by
    intro path hroute
    cases hroute with
    | root hroot => exact hroots path hroot
    | imported _ himports =>
      obtain ⟨_, _, _, _, hdestination⟩ := himports
      obtain ⟨found, hfound⟩ := canonical_of_destination hdestination
      obtain ⟨names, hnames, rfl⟩ := FileTree.locate_of_canonical hfound
      rcases FileTree.mem_entries_of_locate hnames with rfl | ⟨e, he, rfl⟩
      · decide
      · exact hentries e he
  intro path path' file text _ hroute' hfile hfile' hread
  obtain ⟨names, hnames, rfl⟩ := FileTree.locate_of_canonical hfile
  obtain ⟨names', hnames', heq⟩ := FileTree.locate_of_canonical hfile'
  obtain rfl := FileTree.ofSegments_inj (FileTree.names_of_locate hhome hnames)
    (FileTree.names_of_locate hhome hnames') heq
  exact FileTree.read_of_locate (haccept path' hroute') hnames'
    (FileTree.entry?_of_read hnames hread)

theorem homeNamed_circle : circle.HomeNamed := by
  intro s hs
  obtain rfl : s = "w" := by simpa [circle] using hs
  exact ⟨by decide, by decide, by decide⟩

/-- Two files that import each other, loaded in both orders. The desk that each of them has a fragment of
    is static and not safe in the end, and reported, whichever fragment comes first. -/
theorem loadAll_perm_circle :
    letI := circle.frozen
    ["a", "/w/b", "a"].Perm ["/w/b", "a", "a"] ∧ ReadableAlike [] ["a", "/w/b", "a"]
      ∧ ∃ l l', (loadAll ["a", "/w/b", "a"]).exec {} = (.ok (), l)
        ∧ (loadAll ["/w/b", "a", "a"]).exec {} = (.ok (), l') ∧ SameUpToOrder l l'
        ∧ l.subjects = [desk true true]
        ∧ ∃ s ∈ l'.subjects, s.reference = "Desk" ∧ s.isStatic = true ∧ s.isUnsafe = true
          ∧ ∀ o, (s.model.generate o).fate = .reported := by
  let files := circle.frozen
  have lawful : LawfulFiles := FileTree.lawful_frozen homeNamed_circle
  have bounded : BoundedFiles := FileTree.bounded_frozen circle
  have hperm : ["a", "/w/b", "a"].Perm ["/w/b", "a", "a"] := .swap _ _ _
  have hread : ReadableAlike [] ["a", "/w/b", "a"] :=
    readableAlike_frozen homeNamed_circle (by decide) (by decide)
  obtain ⟨hiff, hsame⟩ := loadAll_perm hperm
  obtain ⟨l', hl'⟩ := (hiff hread).mp ⟨circleLoader, circle_loads⟩
  obtain ⟨hsame, hclassified⟩ := hsame circleLoader l' circle_loads hl'
  have hdesk : "Desk" ∈ l'.subjects.map (·.reference) :=
    hsame.references.subset (List.mem_singleton.mpr rfl)
  obtain ⟨s, hs, hreference⟩ := List.mem_map.mp hdesk
  have hfirst : desk true true ∈ circleLoader.subjects := List.mem_singleton.mpr rfl
  have hresembles := hsame.resembles _ hfirst s hs hreference.symm
  refine ⟨hperm, hread, circleLoader, l', circle_loads, hl', hsame, rfl, s, hs, hreference,
    hresembles.isStatic.symm, hresembles.isUnsafe.symm, fun o => ?_⟩
  rw [← (hclassified _ hfirst s hs hreference.symm).1 o, SubjectDecl.fate_generate]
  rfl

/-! ## A path that is too long -/

/-- A path to the file `a` that stays where it is again and again before it gets there. -/
def roundabout (turns : Nat) : String :=
  String.ofList ((List.replicate turns ['.', '/']).flatten ++ ['a'])

theorem segments_roundabout (turns : Nat) :
    Path.segments (roundabout turns) = List.replicate turns "." ++ ["a"] := by
  rw [Path.segments, roundabout, String.toList_ofList]
  induction turns with
  | zero => decide
  | succ turns ih =>
    simp only [List.replicate_succ, List.flatten_cons, List.cons_append, List.nil_append]
    rw [← ih]
    rfl

theorem utf8ByteSize_roundabout (turns : Nat) :
    (roundabout turns).utf8ByteSize = 2 * turns + 1 := by
  rw [roundabout, String.utf8ByteSize_ofList]
  induction turns with
  | zero => rfl
  | succ turns ih =>
    simp only [List.replicate_succ, List.flatten_cons, List.cons_append, List.nil_append,
      String.utf8Len_cons]
    rw [ih, show '.'.utf8Size = 1 from rfl, show '/'.utf8Size = 1 from rfl]
    omega

theorem hasZero_roundabout (turns : Nat) : Path.hasZero (roundabout turns) = false := by
  simp [Path.hasZero, roundabout]

theorem walk_idle {t : FileTree} {here : List String} (hhere : t.isFolder here) (turns : Nat)
    (rest : List String) : t.walk here (List.replicate turns "." ++ rest) = t.walk here rest := by
  induction turns with
  | zero => rfl
  | succ turns ih =>
    rw [List.replicate_succ, List.cons_append, FileTree.walk, ih]
    simp [hhere, FileTree.isIdle]

/-- The turns do not change where the path leads. -/
theorem locate_roundabout {t : FileTree} (hhome : t.isFolder t.home) (turns : Nat) :
    t.locate (roundabout turns) = t.walk t.home ["a"] := by
  have hempty : (roundabout turns).isEmpty = false := by
    rw [String.isEmpty_eq_false_iff]
    intro h
    have hsize := utf8ByteSize_roundabout turns
    rw [h] at hsize
    simp at hsize
  have hstart : t.start (roundabout turns) = t.home := by
    cases turns <;> simp [FileTree.start, Path.isAbsolute, roundabout, List.replicate_succ]
  rw [FileTree.locate, hasZero_roundabout, hempty, hstart, segments_roundabout, walk_idle hhome]
  rfl

/-- But there may be too many of them to read what is there. -/
theorem read_roundabout {t : FileTree} {turns : Nat} (h : 2048 ≤ turns) :
    @Disk.read t.frozen (roundabout turns) = .error .tooLong := by
  have haccept : FileTree.accept (roundabout turns) = .error .tooLong := by
    have hlong : Path.pathLimit < (roundabout turns).utf8ByteSize := by
      rw [utf8ByteSize_roundabout, Path.pathLimit]
      omega
    simp [FileTree.accept, hasZero_roundabout, hlong]
  simp [FileTree.read_frozen, FileTree.read, haccept, bind, Except.bind]

/-- A folder with a single file, which imports nothing. -/
def alone : FileTree where
  entries := [(["w"], .folder), (["w", "a"], .file (some "manifest:\n  assembly: A\n"))]
  home := ["w"]

theorem parse_alone : Manifest.parse "manifest:\n  assembly: A\n" = .ok { assembly := "A" } := by
  have htokens : Yaml.tokens "manifest:\n  assembly: A\n"
      = [.blockMappingStart, .key, .scalar "manifest" .plain, .value, .blockMappingStart,
        .key, .scalar "assembly" .plain, .value, .scalar "A" .plain, .blockEnd, .blockEnd] := by
    decide +kernel
  rw [Manifest.parse, Yaml.load, htokens]
  cbv

theorem canonical_roundabout (turns : Nat) :
    @Disk.canonical alone.frozen (roundabout turns) = .ok "/w/a" := by
  rw [FileTree.canonical_frozen, locate_roundabout (by decide)]
  decide +kernel

/-- Any other path to the file may follow the short one, as it is not read any more. -/
theorem loadAll_short {long : String} (hlong : @Disk.canonical alone.frozen long = .ok "/w/a") :
    letI := alone.frozen
    ∃ l, (loadAll ["a", long]).exec {} = (.ok (), l) := by
  let files := alone.frozen
  have hshort : Disk.canonical "a" = .ok "/w/a" := by decide +kernel
  have hread : Disk.read "a" = .ok "manifest:\n  assembly: A\n" := by decide +kernel
  have hfirst : (loadFile "a").exec {}
      = (.ok (), { met := ["/w/a"], manifests := [{ assembly := "A" }] }) := by
    rw [exec_loadFile]
    exact exec_loadFileWithin_new hshort (by simp) hread parse_alone (exec_loadImports_nil _ _ _)
      (by rw [exec_register]; rfl)
  exact ⟨_, exec_loadAll_cons hfirst
    (exec_loadAll_cons (exec_loadFile_met hlong (by simp)) (exec_loadAll_nil _))⟩

/-- A file that was not met is read, and what cannot be read is not loaded. -/
theorem loadAll_refused [Files Id] {path file : String} {cause : IoFailure} (rest : List String)
    (hfile : Disk.canonical path = .ok file) (hread : Disk.read path = .error cause) :
    ¬ ∃ l, (loadAll (path :: rest)).exec {} = (.ok (), l) := by
  rintro ⟨l, hl⟩
  have houtcome := congrArg Prod.fst hl
  simp [loadAll, exec_bind, exec_loadFile, exec_loadFileWithin_succ, loadNew, exec_read,
    Except.mapError, hfile, hread] at houtcome

/-- The file is loaded by its short path, and the long one then leads to a file that was met. The
    other way round, it is the long path that would have to be read. -/
theorem loadAll_roundabout :
    letI := alone.frozen
    ["a", roundabout 2050].Perm [roundabout 2050, "a"]
      ∧ (∃ l, (loadAll ["a", roundabout 2050]).exec {} = (.ok (), l))
      ∧ ¬ ∃ l, (loadAll [roundabout 2050, "a"]).exec {} = (.ok (), l) := by
  let files := alone.frozen
  exact ⟨.swap _ _ _, loadAll_short (canonical_roundabout 2050),
    loadAll_refused ["a"] (canonical_roundabout 2050) (read_roundabout (by omega))⟩

end Loader

end Companion
