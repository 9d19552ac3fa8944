import Companion.Output
import Companion.Proofs.Files.Writing
import Companion.Proofs.Reports
import Mathlib.Data.List.Induction
import Mathlib.Data.List.Nodup

/-!
# What writing sources leaves behind

Sources are written one after another, so that what is read at a path afterwards was written by the
last source whose path leads there. That another source had the place before it is not excluded by
distinct hint names, for distinct texts may be paths to one file. It is excluded where hint names are
names, without a slash in them:

> **each source is read back from its own path** (`writeSources_reads`),

since a name that is joined to a folder leads to a place in the folder that no other name leads to.
-/

namespace Companion

/-! ## Hint names that were seen before -/

theorem duplicateHint?_eq_none_iff {seen sources : List GeneratedSource} :
    duplicateHint? seen sources = none
      ↔ (sources.map (·.hintName)).Nodup ∧ ∀ s ∈ sources, ∀ first ∈ seen, first.hintName ≠ s.hintName := by
  induction sources generalizing seen with
  | nil => simp [duplicateHint?]
  | cons s rest ih =>
    rw [duplicateHint?]
    cases hfirst : seen.find? (·.hintName == s.hintName) with
    | some first =>
      have hsame : first.hintName = s.hintName := by simpa using List.find?_some hfirst
      constructor
      · intro h
        cases h
      · rintro ⟨-, hnew⟩
        exact absurd hsame (hnew s List.mem_cons_self first (List.mem_of_find?_eq_some hfirst))
    | none =>
      have hnew : ∀ first ∈ seen, first.hintName ≠ s.hintName := by simpa using hfirst
      show duplicateHint? (seen ++ [s]) rest = none ↔ _
      rw [ih, List.map_cons, List.nodup_cons]
      constructor
      · rintro ⟨hnodup, hrest⟩
        refine ⟨⟨fun hmem => ?_, hnodup⟩, fun s' hs' first hf => ?_⟩
        · obtain ⟨again, hagain, hsame⟩ := List.mem_map.mp hmem
          exact hrest again hagain s (List.mem_append_right _ List.mem_cons_self) hsame.symm
        · rcases List.mem_cons.mp hs' with rfl | hs'
          · exact hnew first hf
          · exact hrest s' hs' first (List.mem_append_left _ hf)
      · rintro ⟨⟨hfresh, hnodup⟩, hall⟩
        refine ⟨hnodup, fun s' hs' first hf => ?_⟩
        rcases List.mem_append.mp hf with hf | hf
        · exact hall s' (List.mem_cons_of_mem s hs') first hf
        · rw [List.mem_singleton.mp hf]
          intro hsame
          exact hfresh (List.mem_map.mpr ⟨s', hs', hsame.symm⟩)

/-! ## Writing on a tree -/

/-- The path that a source is written to. -/
def GeneratedSource.path (s : GeneratedSource) (folder : String) : String :=
  Path.join folder s.hintName

/-- The tree after sources are written to a folder, one after another, none of them refused. -/
def FileTree.store (t : FileTree) (folder : String) : List GeneratedSource → Except IoFailure FileTree
  | [] => .ok t
  | s :: rest => (t.write (s.path folder) s.text).bind fun t => t.store folder rest

namespace Writing

/-- The outcome of writing on a tree, and the tree then. -/
def exec {α : Type} (x : Writing (StateM FileTree) α) (t : FileTree) :
    Except OutputError α × FileTree :=
  Id.run (x.run.run t)

section

variable {α β : Type} {t t' : FileTree}

theorem exec_bind (x : Writing (StateM FileTree) α) (f : α → Writing (StateM FileTree) β)
    (t : FileTree) :
    (x >>= f).exec t = match x.exec t with
      | (.ok a, t) => (f a).exec t
      | (.error e, t) => (.error e, t) := by
  show Id.run (ExceptT.bindCont f (x t).1 (x t).2) = match x t with
    | (.ok a, t) => (f a).exec t
    | (.error e, t) => (.error e, t)
  cases x t with
  | mk outcome t => cases outcome <;> rfl

theorem exec_bind_eq_ok {x : Writing (StateM FileTree) α} {f : α → Writing (StateM FileTree) β}
    {b : β} :
    (x >>= f).exec t = (.ok b, t')
      ↔ ∃ a between, x.exec t = (.ok a, between) ∧ (f a).exec between = (.ok b, t') := by
  rw [exec_bind]
  cases x.exec t with
  | mk outcome between =>
    cases outcome with
    | error e => simp
    | ok a =>
      constructor
      · intro h
        exact ⟨a, between, rfl, h⟩
      · rintro ⟨a', between', hx, h⟩
        cases hx
        exact h

theorem exec_bind_eq_error {x : Writing (StateM FileTree) α} {f : α → Writing (StateM FileTree) β}
    {e : OutputError} :
    (x >>= f).exec t = (.error e, t')
      ↔ x.exec t = (.error e, t')
        ∨ ∃ a between, x.exec t = (.ok a, between) ∧ (f a).exec between = (.error e, t') := by
  rw [exec_bind]
  cases x.exec t with
  | mk outcome between => cases outcome <;> simp

/-- A request to the tree is no failure of writing, whatever the answer. -/
theorem exec_liftM (x : StateM FileTree α) (t : FileTree) :
    (liftM x : Writing (StateM FileTree) α).exec t = (.ok (x t).1, (x t).2) := rfl

end

end Writing

section

variable {t t' : FileTree} {folder : String}

theorem run_write (path text : String) (t : FileTree) :
    (Files.write path text : StateM FileTree _) t
      = match t.write path text with
        | .ok t' => (.ok (), t')
        | .error e => (.error e, t) := rfl

theorem run_makeFolders (path : String) (t : FileTree) :
    (Files.makeFolders path : StateM FileTree _) t
      = ((t.makeFolders path).2, (t.makeFolders path).1) := rfl

theorem exec_writeSource (folder : String) (s : GeneratedSource) (t : FileTree) :
    (writeSource folder s : Writing (StateM FileTree) String).exec t
      = match t.write (s.path folder) s.text with
        | .ok t' => (.ok (s.path folder), t')
        | .error cause => (.error (.write (s.path folder) cause), t) := by
  rw [writeSource, Writing.exec_bind, Writing.exec_liftM, run_write, GeneratedSource.path]
  cases t.write (Path.join folder s.hintName) s.text with
  | ok t' => rfl
  | error cause => rfl

/-- Each source is written in turn, and nothing else is done. -/
theorem exec_writeEach {sources : List GeneratedSource} {paths : List String} :
    (sources.mapM (writeSource folder) : Writing (StateM FileTree) _).exec t = (.ok paths, t')
      ↔ paths = sources.map (·.path folder) ∧ t.store folder sources = .ok t' := by
  induction sources generalizing t paths with
  | nil =>
    show (Except.ok [], t) = (Except.ok paths, t') ↔ _
    simp [FileTree.store, eq_comm]
  | cons s rest ih =>
    rw [List.mapM_cons, FileTree.store, List.map_cons]
    constructor
    · intro h
      obtain ⟨path, between, hfirst, h⟩ := Writing.exec_bind_eq_ok.mp h
      obtain ⟨more, last, hrest, h⟩ := Writing.exec_bind_eq_ok.mp h
      obtain ⟨rfl, rfl⟩ : path :: more = paths ∧ last = t' := by simpa using Prod.mk.inj h
      obtain ⟨rfl, hstore⟩ := ih.mp hrest
      rw [exec_writeSource] at hfirst
      cases hwrite : t.write (s.path folder) s.text with
      | error e => simp [hwrite] at hfirst
      | ok made =>
        obtain ⟨rfl, rfl⟩ : s.path folder = path ∧ made = between := by
          simpa [hwrite] using hfirst
        exact ⟨rfl, hstore⟩
    · rintro ⟨rfl, hstore⟩
      cases hwrite : t.write (s.path folder) s.text with
      | error e => simp [hwrite, Except.bind] at hstore
      | ok made =>
        rw [hwrite] at hstore
        refine Writing.exec_bind_eq_ok.mpr ⟨s.path folder, made, ?_, ?_⟩
        · rw [exec_writeSource, hwrite]
        · exact Writing.exec_bind_eq_ok.mpr ⟨_, t', ih.mpr ⟨rfl, hstore⟩, rfl⟩

/-- Whatever it comes to, the first of the sources have been written then, up to some point. -/
theorem exists_store_of_exec_writeEach {sources : List GeneratedSource}
    {outcome : Except OutputError (List String)}
    (h : (sources.mapM (writeSource folder) : Writing (StateM FileTree) _).exec t = (outcome, t')) :
    ∃ written, written <+: sources ∧ t.store folder written = .ok t' := by
  induction sources generalizing t outcome with
  | nil =>
    cases h
    exact ⟨[], List.prefix_rfl, rfl⟩
  | cons s rest ih =>
    rw [List.mapM_cons, Writing.exec_bind, exec_writeSource] at h
    cases hwrite : t.write (s.path folder) s.text with
    | error e =>
      rw [hwrite] at h
      cases h
      exact ⟨[], List.nil_prefix, rfl⟩
    | ok between =>
      simp only [hwrite, Writing.exec_bind] at h
      -- The outcome of the rest decides the outcome of all, and the tree is that of the rest.
      have hrest : ∃ more, (rest.mapM (writeSource folder) : Writing (StateM FileTree) _).exec between
          = (more, t') := by
        split at h
        · next paths last hrest =>
          cases h
          exact ⟨_, hrest⟩
        · next e last hrest =>
          cases h
          exact ⟨_, hrest⟩
      obtain ⟨more, hrest⟩ := hrest
      obtain ⟨written, hprefix, hstore⟩ := ih hrest
      refine ⟨s :: written, (List.prefix_cons_inj s).mpr hprefix, ?_⟩
      rw [FileTree.store, hwrite]
      exact hstore

/-- Two sources of one hint name are refused, and nothing is done then. -/
theorem exec_writeSources_of_clash (folder : String) {sources : List GeneratedSource}
    (h : ¬ (sources.map (·.hintName)).Nodup) (t : FileTree) :
    ∃ hintName first second,
      (writeSources folder sources : Writing (StateM FileTree) _).exec t
        = (.error (.duplicate hintName first second), t) := by
  cases hclash : duplicateHint? [] sources with
  | none => exact absurd (duplicateHint?_eq_none_iff.mp hclash).1 h
  | some pair =>
    refine ⟨pair.2.hintName, pair.1.subject, pair.2.subject, ?_⟩
    rw [writeSources, hclash]
    rfl

/-- Sources are written if no two of them have one hint name, if the folder can be made, and if no
    write is refused. -/
theorem exec_writeSources_eq_ok {sources : List GeneratedSource} {paths : List String} :
    (writeSources folder sources : Writing (StateM FileTree) _).exec t = (.ok paths, t')
      ↔ (sources.map (·.hintName)).Nodup ∧ paths = sources.map (·.path folder)
        ∧ ∃ made, t.makeFolders folder = (made, .ok ()) ∧ made.store folder sources = .ok t' := by
  by_cases hnodup : (sources.map (·.hintName)).Nodup
  · have hnew : duplicateHint? [] sources = none := duplicateHint?_eq_none_iff.mpr ⟨hnodup, by simp⟩
    rw [writeSources, hnew, Writing.exec_bind, Writing.exec_liftM, run_makeFolders]
    cases hmade : t.makeFolders folder with
    | mk made outcome =>
      cases outcome with
      | error e =>
        constructor
        · intro h
          exact absurd (congrArg Prod.fst h) (nomatch ·)
        · rintro ⟨-, -, made', hmade', -⟩
          cases hmade'
      | ok _ =>
        show (sources.mapM (writeSource folder) : Writing (StateM FileTree) _).exec made = _ ↔ _
        rw [exec_writeEach]
        constructor
        · rintro ⟨hpaths, hstore⟩
          exact ⟨hnodup, hpaths, made, rfl, hstore⟩
        · rintro ⟨-, hpaths, made', hmade', hstore⟩
          cases hmade'
          exact ⟨hpaths, hstore⟩
  · constructor
    · intro h
      obtain ⟨_, _, _, hclash⟩ := exec_writeSources_of_clash folder hnodup t
      rw [hclash] at h
      exact absurd (congrArg Prod.fst h) (by simp)
    · rintro ⟨h, -⟩
      exact absurd h hnodup

/-- Unless sources are refused for a clash, the folder is made, or as much of it as can be, and the
    first of them are written. -/
theorem exists_store_of_exec_writeSources {sources : List GeneratedSource}
    {outcome : Except OutputError (List String)}
    (h : (writeSources folder sources : Writing (StateM FileTree) _).exec t = (outcome, t')) :
    (∃ hintName first second, outcome = .error (.duplicate hintName first second) ∧ t' = t)
      ∨ ∃ made answer, t.makeFolders folder = (made, answer)
        ∧ (∀ paths, outcome = .ok paths → answer = .ok ())
        ∧ ∃ written, written <+: sources ∧ made.store folder written = .ok t' := by
  by_cases hnodup : (sources.map (·.hintName)).Nodup
  · right
    have hnew : duplicateHint? [] sources = none := duplicateHint?_eq_none_iff.mpr ⟨hnodup, by simp⟩
    rw [writeSources, hnew, Writing.exec_bind, Writing.exec_liftM, run_makeFolders] at h
    cases hmade : t.makeFolders folder with
    | mk made answer =>
      rw [hmade] at h
      refine ⟨made, answer, rfl, ?_⟩
      cases answer with
      | error e =>
        cases h
        exact ⟨by simp, [], List.nil_prefix, rfl⟩
      | ok _ => exact ⟨fun _ _ => rfl, exists_store_of_exec_writeEach h⟩
  · left
    obtain ⟨hintName, first, second, hclash⟩ := exec_writeSources_of_clash folder hnodup t
    rw [hclash] at h
    cases h
    exact ⟨hintName, first, second, rfl, rfl⟩

/-! ## Reading what was written -/

theorem store_append (a b : List GeneratedSource) (t : FileTree) :
    t.store folder (a ++ b) = (t.store folder a).bind fun t => t.store folder b := by
  induction a generalizing t with
  | nil => rfl
  | cons s rest ih =>
    rw [List.cons_append, FileTree.store, FileTree.store]
    cases t.write (s.path folder) s.text with
    | error e => rfl
    | ok between => exact ih between

theorem store_append_singleton_eq_ok {sources : List GeneratedSource} {new : GeneratedSource} :
    t.store folder (sources ++ [new]) = .ok t'
      ↔ ∃ between, t.store folder sources = .ok between
        ∧ between.write (new.path folder) new.text = .ok t' := by
  rw [store_append]
  cases t.store folder sources with
  | error e => simp [Except.bind]
  | ok between =>
    simp only [Except.bind, FileTree.store, Except.ok.injEq, exists_eq_left']
    cases between.write (new.path folder) new.text <;> rfl

/-- Among the sources, the last one whose path leads where this one's does. What is there is its
    text. -/
structure LastWritten (t : FileTree) (folder : String) (sources : List GeneratedSource)
    (s last : GeneratedSource) : Prop where
  accepted : FileTree.accept (s.path folder) = .ok ()
  there : ∃ place, t.locate (s.path folder) = .ok place
    ∧ t.entry? place = some (.file (some last.text))
  isLast : ∃ before after, sources = before ++ last :: after
    ∧ t.locate (last.path folder) = t.locate (s.path folder)
    ∧ ∀ later ∈ after, t.locate (later.path folder) ≠ t.locate (s.path folder)

theorem LastWritten.read {sources : List GeneratedSource} {s last : GeneratedSource}
    (h : LastWritten t folder sources s last) : t.read (s.path folder) = .ok last.text := by
  obtain ⟨place, hplace, hentry⟩ := h.there
  exact FileTree.read_of_locate h.accepted hplace hentry

/-- A source that is written last is the last one at its own place. -/
theorem LastWritten.new {sources : List GeneratedSource} {s new : GeneratedSource}
    {place : List String} (haccept : FileTree.accept (s.path folder) = .ok ())
    (hplace : t'.locate (s.path folder) = .ok place) (hwrite : t.write (new.path folder) new.text = .ok t')
    (hnew : t'.locate (new.path folder) = .ok place) :
    LastWritten t' folder (sources ++ [new]) s new where
  accepted := haccept
  there := ⟨place, hplace, FileTree.entry?_of_write hwrite hnew⟩
  isLast := ⟨sources, [], rfl, by rw [hplace, hnew], by simp⟩

/-- A source that is written last leaves the last one at any other place what it was, for every path
    still leads where it led. -/
theorem LastWritten.kept {sources : List GeneratedSource} {s last new : GeneratedSource}
    {place written : List String} (h : LastWritten t folder sources s last)
    (hlocated : ∀ s ∈ sources, ∃ place, t.locate (s.path folder) = .ok place)
    (hplace : t.locate (s.path folder) = .ok place) (hother : place ≠ written)
    (hfree : t.IsFree written)
    (hnew : (t.put written (.file (some new.text))).locate (new.path folder) = .ok written) :
    LastWritten (t.put written (.file (some new.text))) folder (sources ++ [new]) s last := by
  have hstays : (t.put written (.file (some new.text))).locate (s.path folder) = .ok place :=
    FileTree.locate_put hfree hplace
  obtain ⟨found, hfound, hentry⟩ := h.there
  obtain rfl : place = found := Except.ok.inj (hplace.symm.trans hfound)
  obtain ⟨before, after, rfl, hlast, hafter⟩ := h.isLast
  refine ⟨h.accepted, ⟨place, hstays, ?_⟩, before, after ++ [new], by simp, ?_, ?_⟩
  · rw [FileTree.entry?_put_other hother, hentry]
  · rw [hstays]
    exact FileTree.locate_put hfree (hlast.trans hplace)
  · intro later hlater
    rw [hstays]
    rcases List.mem_append.mp hlater with hlater | hlater
    · obtain ⟨elsewhere, helsewhere⟩ := hlocated later
        (List.mem_append_right _ (List.mem_cons_of_mem _ hlater))
      have hne := hafter later hlater
      rw [helsewhere, hplace] at hne
      rw [FileTree.locate_put hfree helsewhere]
      exact hne
    · rw [List.mem_singleton.mp hlater, hnew]
      intro heq
      exact hother (Except.ok.inj heq).symm

/-- By induction on the sources from the end: the last write took the place of what was written there
    before, and left all the rest alone. -/
theorem exists_lastWritten {sources : List GeneratedSource} (h : t.store folder sources = .ok t') :
    ∀ s ∈ sources, ∃ last, LastWritten t' folder sources s last := by
  induction sources using List.reverseRecOn generalizing t' with
  | nil => simp
  | append_singleton sources new ih =>
    obtain ⟨between, hbetween, hwrite⟩ := store_append_singleton_eq_ok.mp h
    obtain ⟨written, hfree, rfl, haccept, hwritten⟩ := FileTree.exists_place_of_write hwrite
    intro s hs
    rcases List.mem_append.mp hs with hs | hs
    · obtain ⟨last, hlast⟩ := ih hbetween s hs
      obtain ⟨place, hplace, -⟩ := hlast.there
      by_cases hsame : place = written
      · subst hsame
        exact ⟨new, .new hlast.accepted (FileTree.locate_put hfree hplace) hwrite hwritten⟩
      · refine ⟨last, hlast.kept (fun s' hs' => ?_) hplace hsame hfree hwritten⟩
        obtain ⟨_, hlocated⟩ := ih hbetween s' hs'
        obtain ⟨place', hplace', -⟩ := hlocated.there
        exact ⟨place', hplace'⟩
    · rw [List.mem_singleton.mp hs]
      exact ⟨new, .new haccept hwritten hwrite hwritten⟩

/-- **What is read at the paths of written sources.** Each path reads the text of the last source that
    was written to where it leads. Where hint names are names, that is the source's own text. -/
theorem writeSources_reads {sources : List GeneratedSource} {paths : List String}
    (h : (writeSources folder sources : Writing (StateM FileTree) _).exec t = (.ok paths, t')) :
    paths = sources.map (·.path folder)
      ∧ (∀ s ∈ sources, ∃ last, LastWritten t' folder sources s last
        ∧ t'.read (s.path folder) = .ok last.text)
      ∧ ((∀ s ∈ sources, FileTree.IsName s.hintName) →
        ∀ s ∈ sources, t'.read (s.path folder) = .ok s.text) := by
  obtain ⟨hnodup, hpaths, made, -, hstore⟩ := exec_writeSources_eq_ok.mp h
  have hlast := exists_lastWritten hstore
  refine ⟨hpaths, fun s hs => ?_, fun hnames s hs => ?_⟩
  · obtain ⟨last, hlast⟩ := hlast s hs
    exact ⟨last, hlast, hlast.read⟩
  · obtain ⟨last, hlast⟩ := hlast s hs
    obtain ⟨place, hplace, -⟩ := hlast.there
    obtain ⟨before, after, hsplit, hsame, -⟩ := hlast.isLast
    have hmem : last ∈ sources := by
      rw [hsplit]
      exact List.mem_append_right _ List.mem_cons_self
    -- Names that lead to one place of a folder are one name, and no two sources have it.
    obtain ⟨inside, -, hfound⟩ := FileTree.exists_folder_of_locate_join (hnames s hs) hplace
    obtain ⟨inside', -, hfound'⟩ :=
      FileTree.exists_folder_of_locate_join (hnames last hmem) (hsame.trans hplace)
    have hhint : last.hintName = s.hintName := by
      have hends := congrArg List.getLast? (hfound'.symm.trans hfound)
      simpa using hends
    have heq : last = s := List.inj_on_of_nodup_map hnodup hmem hs hhint
    rw [hlast.read, heq]

end

/-- A tree with nothing in it but the working directory. -/
def bareTree : FileTree where
  entries := [(["w"], .folder)]
  home := ["w"]

/-- What is generated for two classes that are named apart. -/
def strangers : List GeneratedSource :=
  [SubjectDecl.ofName "X" none, SubjectDecl.ofName "Y" none].map (·.model.source {})

theorem writeSources_reads_strangers :
    ∃ t', (writeSources "out" strangers : Writing (StateM FileTree) _).exec bareTree
        = (.ok ["out/XProxy.g.cs", "out/YProxy.g.cs"], t')
      ∧ ∀ s ∈ strangers, t'.read (s.path "out") = .ok s.text := by
  obtain ⟨t', hstore⟩ : ∃ t', (bareTree.makeFolders "out").1.store "out" strangers = .ok t' := by
    have hok : ((bareTree.makeFolders "out").1.store "out" strangers).isOk = true := by
      decide +kernel
    cases hstore : (bareTree.makeFolders "out").1.store "out" strangers with
    | error e => simp [hstore, Except.isOk, Except.toBool] at hok
    | ok t' => exact ⟨t', rfl⟩
  have hdone : (writeSources "out" strangers : Writing (StateM FileTree) _).exec bareTree
      = (.ok ["out/XProxy.g.cs", "out/YProxy.g.cs"], t') := by
    refine exec_writeSources_eq_ok.mpr ⟨?_, ?_, _, rfl, hstore⟩
    · decide
    · decide
  obtain ⟨-, -, hown⟩ := writeSources_reads hdone
  refine ⟨t', hdone, hown ?_⟩
  show ∀ s ∈ strangers, _
  simp only [strangers, List.map_cons, List.map_nil, List.forall_mem_cons]
  refine ⟨?_, ?_, by simp⟩
  · exact ⟨by decide, by decide, by decide⟩
  · exact ⟨by decide, by decide, by decide⟩

/-! ## Two paths to one file -/

/-- Two classes with names that differ, but not in where they lead. -/
def neighbours : List SubjectDecl :=
  [{ SubjectDecl.ofName "X" none with reference := "A" },
    { SubjectDecl.ofName "./X" none with reference := "B" }]

theorem collisionFree_neighbours :
    Sha256.CollisionFree ((Run.mk {} neighbours).requests.map Request.message) := by
  simp only [neighbours, Run.requests, List.map_cons, List.map_nil, Request.message, digested,
    toUTF8_toList]
  refine Sha256.collisionFree_pair ?_
  decide +kernel

theorem sources_neighbours :
    (generateSubjects {} neighbours {} {}).1.sources = neighbours.map (·.model.source {}) := by
  rw [generateSubjects_eq_ofOutcomes collisionFree_neighbours]
  rfl

/-- Both are written, the second one over the first. -/
theorem writeSources_overwrites :
    ∃ first second t', (generateSubjects {} neighbours {} {}).1.sources = [first, second]
      ∧ (writeSources "out" [first, second] : Writing (StateM FileTree) _).exec bareTree
        = (.ok ["out/XProxy.g.cs", "out/./XProxy.g.cs"], t')
      ∧ t'.read "out/XProxy.g.cs" = .ok second.text ∧ second.text ≠ first.text := by
  refine ⟨_, _, _, sources_neighbours, exec_writeSources_eq_ok.mpr ⟨?_, ?_, _, rfl, rfl⟩, rfl, ?_⟩
  · decide
  · decide
  · decide +kernel

end Companion
