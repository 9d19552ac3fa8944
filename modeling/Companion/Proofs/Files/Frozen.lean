import Companion.Files.Tree
import Companion.Proofs.Files.Disk

/-!
# Trees of files that nobody changes

A tree answers every request for a path by walking to it. Where a walk ends is given by names alone,
without idle segments and steps back (`names_of_walk`), and a path of names leads to itself
(`walk_names`). So a tree that nobody changes is a lawful file system, whatever stands in it; all it
takes is that the working directory is given by names, too.
-/

namespace Companion

/-! ## Paths and their segments -/

namespace Path

theorem splitSlashes_intercalate {parts : List (List Char)} (hne : parts ≠ [])
    (h : ∀ part ∈ parts, '/' ∉ part) : splitSlashes (['/'].intercalate parts) = parts := by
  induction parts with
  | nil => exact absurd rfl hne
  | cons part rest ih =>
    have hpart := splitSlashes_of_not_mem (h part List.mem_cons_self)
    cases rest with
    | nil => simpa using hpart
    | cons next more =>
      have hrest := ih (by simp) (fun p hp => h p (List.mem_cons_of_mem _ hp))
      rw [List.intercalate_cons_cons, List.append_assoc, List.singleton_append,
        splitSlashes_append, hpart, hrest]
      rfl

theorem slash_not_mem_of_mem_splitSlashes {cs part : List Char} (h : part ∈ splitSlashes cs) :
    '/' ∉ part := by
  induction cs generalizing part with
  | nil =>
    obtain rfl : part = [] := by simpa [splitSlashes] using h
    simp
  | cons c rest ih =>
    obtain ⟨s, more, hs⟩ := List.exists_cons_of_ne_nil (splitSlashes_ne_nil rest)
    rw [hs] at ih
    rw [splitSlashes, hs] at h
    split at h
    · rcases List.mem_cons.mp h with rfl | h
      · simp
      · exact ih h
    · next hc =>
      rcases List.mem_cons.mp h with rfl | h
      · simpa [Ne.symm hc] using ih List.mem_cons_self
      · exact ih (List.mem_cons_of_mem _ h)

theorem slash_not_mem_of_mem_segments {path segment : String} (h : segment ∈ segments path) :
    '/' ∉ segment.toList := by
  obtain ⟨part, hpart, rfl⟩ := List.mem_map.mp h
  simpa using slash_not_mem_of_mem_splitSlashes hpart

theorem toList_ofSegments (names : List String) :
    (ofSegments names).toList = '/' :: ['/'].intercalate (names.map String.toList) := by
  simp [ofSegments, String.toList_intercalate]

theorem segments_ofSegments {names : List String} (hne : names ≠ [])
    (h : ∀ name ∈ names, '/' ∉ name.toList) : segments (ofSegments names) = "" :: names := by
  have hsplit : splitSlashes (['/'].intercalate (names.map String.toList))
      = names.map String.toList :=
    splitSlashes_intercalate (by simpa using hne) (by simpa using h)
  rw [segments, toList_ofSegments, splitSlashes, if_pos rfl, hsplit]
  simp

theorem segments_ofSegments_nil : segments (ofSegments []) = ["", ""] := by decide

end Path

namespace FileTree

/-! ## Walks -/

/-- The segment is a name, neither idle nor a step back. -/
def IsName (segment : String) : Prop :=
  isIdle segment = false ∧ segment ≠ ".." ∧ '/' ∉ segment.toList

theorem names_of_walk {t : FileTree} {here segments path : List String}
    (hhere : ∀ s ∈ here, IsName s) (hsegments : ∀ s ∈ segments, '/' ∉ s.toList)
    (h : t.walk here segments = .ok path) : ∀ s ∈ path, IsName s := by
  induction segments generalizing here with
  | nil =>
    rw [walk] at h
    split at h
    · cases h
      exact hhere
    · cases h
  | cons s rest ih =>
    have hrest : ∀ s ∈ rest, '/' ∉ s.toList := fun s hs => hsegments s (List.mem_cons_of_mem _ hs)
    rw [walk] at h
    split at h
    · cases h
    · split at h
      · exact ih hhere hrest h
      · next hidle =>
        split at h
        -- A step back leaves a part of the way here.
        · exact ih (fun s hs => hhere s (List.dropLast_subset here hs)) hrest h
        · next hback =>
          split at h
          · cases h
          · split at h
            · cases h
            · refine ih ?_ hrest h
              intro s' hs'
              rcases List.mem_append.mp hs' with hs' | hs'
              · exact hhere s' hs'
              · obtain rfl := List.mem_singleton.mp hs'
                exact ⟨by simpa using hidle, by simpa using hback,
                  hsegments _ List.mem_cons_self⟩

/-- A walk along names goes nowhere else. -/
theorem walk_names {t : FileTree} {here names path : List String}
    (hnames : ∀ s ∈ names, IsName s) (h : t.walk here names = .ok path) :
    path = here ++ names := by
  induction names generalizing here with
  | nil =>
    rw [walk] at h
    split at h
    · cases h
      simp
    · cases h
  | cons s rest ih =>
    obtain ⟨hidle, hback, -⟩ := hnames s List.mem_cons_self
    have hrest : ∀ s ∈ rest, IsName s := fun s hs => hnames s (List.mem_cons_of_mem _ hs)
    rw [walk] at h
    simp only [hidle, beq_iff_eq, hback, if_false, Bool.false_eq_true] at h
    split at h
    · cases h
    · split at h
      · cases h
      · split at h
        · cases h
        · simpa using ih hrest h

def HomeNamed (t : FileTree) : Prop :=
  ∀ s ∈ t.home, IsName s

theorem names_of_locate {t : FileTree} (hhome : t.HomeNamed) {path : String}
    {names : List String} (h : t.locate path = .ok names) : ∀ s ∈ names, IsName s := by
  unfold locate at h
  split at h
  · cases h
  · split at h
    · cases h
    · refine names_of_walk ?_ (fun s => Path.slash_not_mem_of_mem_segments) h
      intro s hs
      unfold start at hs
      split at hs
      · exact absurd hs (by simp)
      · exact hhome s hs

/-- A path of names leads to itself. -/
theorem locate_ofSegments {t : FileTree} {names found : List String}
    (hnames : ∀ s ∈ names, IsName s) (h : t.locate (Path.ofSegments names) = .ok found) :
    found = names := by
  have hroot : t.start (Path.ofSegments names) = [] := by
    simp [start, Path.isAbsolute, Path.toList_ofSegments]
  unfold locate at h
  split at h
  · cases h
  · split at h
    · cases h
    · rw [hroot] at h
      -- The root has two segments, both idle, where every other path has one in front.
      by_cases hne : names = []
      · subst hne
        rw [Path.segments_ofSegments_nil] at h
        simpa [walk, isFolder, entry?, isIdle, eq_comm] using h
      · rw [Path.segments_ofSegments hne fun s hs => (hnames s hs).2.2, walk] at h
        have hwalk : t.walk [] names = .ok found := by
          simpa [isFolder, entry?, isIdle] using h
        simpa using walk_names hnames hwalk

theorem filter_segments_ofSegments {names : List String} (h : ∀ s ∈ names, IsName s) :
    (Path.segments (Path.ofSegments names)).filter (!isIdle ·) = names := by
  have hnames : names.filter (!isIdle ·) = names := by
    rw [List.filter_eq_self]
    intro s hs
    simp [(h s hs).1]
  by_cases hne : names = []
  · subst hne
    decide
  · rw [Path.segments_ofSegments hne fun s hs => (h s hs).2.2, List.filter_cons]
    simpa [isIdle] using hnames

theorem ofSegments_inj {names names' : List String} (hnames : ∀ s ∈ names, IsName s)
    (hnames' : ∀ s ∈ names', IsName s) (h : Path.ofSegments names = Path.ofSegments names') :
    names = names' := by
  rw [← filter_segments_ofSegments hnames, h, filter_segments_ofSegments hnames']

/-! ## The tree as a file system without a state -/

/-- The answers of a tree that nobody changes. -/
@[reducible] def frozen (t : FileTree) : Files Id where
  canonical path := ((Files.canonical path : StateM FileTree _).run t).1
  leadsSomewhere path := ((Files.leadsSomewhere path : StateM FileTree _).run t).1
  read path := ((Files.read path : StateM FileTree _).run t).1
  makeFolders path := ((Files.makeFolders path : StateM FileTree _).run t).1
  write path text := ((Files.write path text : StateM FileTree _).run t).1
  pathBound := ((Files.pathBound : StateM FileTree _).run t).1

section

variable {t : FileTree}

theorem canonical_frozen (path : String) :
    @Disk.canonical t.frozen path = (t.locate path).map Path.ofSegments := rfl

theorem read_frozen (path : String) : @Disk.read t.frozen path = t.read path := rfl

theorem locate_of_canonical {path file : String}
    (h : @Disk.canonical t.frozen path = .ok file) :
    ∃ names, t.locate path = .ok names ∧ file = Path.ofSegments names := by
  rw [canonical_frozen] at h
  cases hlocate : t.locate path with
  | error cause => exact absurd h (by simp [hlocate, Except.map])
  | ok names => exact ⟨names, rfl, by simpa [hlocate, Except.map, eq_comm] using h⟩

/-- What is read depends on where the path leads. -/
theorem entry?_of_read {path text : String} {names : List String}
    (hlocate : t.locate path = .ok names) (h : t.read path = .ok text) :
    t.entry? names = some (.file (some text)) := by
  unfold FileTree.read at h
  cases haccept : accept path with
  | error cause => exact absurd h (by simp [haccept, bind, Except.bind])
  | ok _ =>
    simp only [haccept, hlocate, bind, Except.bind] at h
    split at h
    · next text' hentry =>
      cases h
      exact hentry
    · cases h
    · cases h
    · cases h

/-- **A tree that nobody changes is lawful.** -/
theorem lawful_frozen (hhome : t.HomeNamed) : @LawfulFiles t.frozen :=
  letI := t.frozen
  { canonical_unique := by
      intro path file again hfile hagain
      obtain ⟨names, hnames, rfl⟩ := locate_of_canonical hfile
      obtain ⟨names', hnames', rfl⟩ := locate_of_canonical hagain
      rw [locate_ofSegments (names_of_locate hhome hnames) hnames']
    read_unique := by
      intro path path' file text text' hfile hfile' htext htext'
      obtain ⟨names, hnames, rfl⟩ := locate_of_canonical hfile
      obtain ⟨names', hnames', heq⟩ := locate_of_canonical hfile'
      obtain rfl :=
        ofSegments_inj (names_of_locate hhome hnames) (names_of_locate hhome hnames') heq
      have hentry := entry?_of_read hnames htext
      rw [entry?_of_read hnames' htext'] at hentry
      simpa using hentry.symm }

/-- A canonical path is that of the root or of an entry. -/
theorem mem_entries_of_locate {path : String} {names : List String}
    (h : t.locate path = .ok names) : names = [] ∨ ∃ e ∈ t.entries, e.1 = names := by
  have hsome : (t.entry? names).isSome := by
    unfold locate at h
    split at h
    · cases h
    · split at h
      · cases h
      · exact isSome_entry?_of_walk h
  unfold entry? at hsome
  split at hsome
  · next hempty => exact .inl (List.isEmpty_iff.mp hempty)
  · right
    obtain ⟨e, he, hname⟩ := List.lookup_isSome_iff.mp hsome
    exact ⟨e, he, (beq_iff_eq.mp hname).symm⟩

/-- The paths of a tree: that of the root, and one for each entry. -/
def paths (t : FileTree) : List String :=
  Path.ofSegments [] :: t.entries.map fun e => Path.ofSegments e.1

theorem mem_paths_of_canonical {path file : String}
    (h : @Disk.canonical t.frozen path = .ok file) : file ∈ t.paths := by
  obtain ⟨names, hnames, rfl⟩ := locate_of_canonical h
  rcases mem_entries_of_locate hnames with rfl | ⟨e, he, rfl⟩
  · exact List.mem_cons_self
  · exact List.mem_cons_of_mem _ (List.mem_map_of_mem he)

/-- **A tree has only so many paths.** -/
theorem bounded_frozen (t : FileTree) : @BoundedFiles t.frozen :=
  letI := t.frozen
  { bounded := by
      refine ⟨t.paths, ?_, fun path file => mem_paths_of_canonical⟩
      rw [paths, List.length_cons, List.length_map]
      exact Nat.le_refl _ }

/-- A path that is not refused as a whole reads what stands where it leads. -/
theorem read_of_locate {path text : String} {names : List String} (haccept : accept path = .ok ())
    (hlocate : t.locate path = .ok names) (hentry : t.entry? names = some (.file (some text))) :
    t.read path = .ok text := by
  simp [FileTree.read, haccept, hlocate, hentry, bind, Except.bind]

end

end FileTree

end Companion
