import Companion.Proofs.Extraction
import Companion.Proofs.Options
import Companion.Proofs.Output

/-!
# Names of companions and of their files

A companion is named by its subject's name and the suffix, and its file by the companion's name.
Options are resolved only if the suffix may follow an identifier, and members are passed over unless
their names are identifiers; a subject is described under whatever name it was declared with. So:

* the companion's name is an identifier **if the subject's is** (`isValid_append`), and it is no keyword
  unless the suffix is in small letters (`isLower_of_keyword`);
* the file stays in its folder **if there is no slash in the subject's name** (`store_inside`).

Neither condition is checked anywhere, and without them neither conclusion holds
(`names_unchecked`).
-/

namespace Companion

/-! ## Names under a suffix -/

namespace Identifier

/-- A keyword ends in small letters only. -/
theorem isLower_of_keyword {name suffix : String} (h : name ++ suffix ∈ keywords) :
    ∀ c ∈ suffix.toList, c.isLower = true := by
  intro c hc
  refine isLower_of_mem_keywords h c ?_
  rw [String.toList_append]
  exact List.mem_append_right _ hc

theorem slash_not_mem_of_isSuffix {suffix : String} (h : isSuffix suffix = true) :
    '/' ∉ suffix.toList := by
  intro hslash
  have hcontinue := (isSuffix_iff.mp h).2 '/' hslash
  exact absurd hcontinue (by decide +kernel)

end Identifier

/-! ## Names of files -/

/-- What ends in the extension of a file is a name, unless a slash is in it. -/
theorem isName_file_iff {name : String} :
    FileTree.IsName (name ++ ".g.cs") ↔ '/' ∉ name.toList := by
  have hlength : ∀ short : String, short.toList.length < 5 → name ++ ".g.cs" ≠ short := by
    rintro short hshort rfl
    have hends : (name ++ ".g.cs").toList.length = name.toList.length + 5 := by simp
    omega
  constructor
  · rintro ⟨-, -, hslash⟩ hname
    exact hslash (by simp [hname])
  · intro hname
    refine ⟨?_, hlength ".." (by decide), by simpa using hname⟩
    rw [FileTree.isIdle, Bool.or_eq_false_iff]
    constructor
    · simp
    · simpa using hlength "." (by decide)

/-! ## Where the files are -/

section

variable {t t' : FileTree} {folder : String}

/-- **Sources with names stay in the folder.** Whatever is another after they were written is right in
    the folder, under the hint name of one of them. By induction on the sources: a write finds the
    folder, and leaves it where it is. -/
theorem store_inside {sources : List GeneratedSource}
    (hnames : ∀ s ∈ sources, FileTree.IsName s.hintName) (h : t.store folder sources = .ok t') :
    ∀ path, t'.entry? path ≠ t.entry? path → ∃ s ∈ sources, ∃ place,
      t.walkToFolder (t.start folder) (Path.segments folder) = .ok place
        ∧ path = place ++ [s.hintName] := by
  induction sources generalizing t with
  | nil =>
    cases h
    intro path hpath
    exact absurd rfl hpath
  | cons s rest ih =>
    rw [FileTree.store] at h
    cases hwrite : t.write (s.path folder) s.text with
    | error e => simp [hwrite, Except.bind] at h
    | ok between =>
      simp only [hwrite, Except.bind] at h
      have hname := hnames s List.mem_cons_self
      obtain ⟨place, hplace, hput⟩ := FileTree.exists_folder_of_write_join hname hwrite
      intro path hpath
      by_cases hfirst : path = place ++ [s.hintName]
      · exact ⟨s, List.mem_cons_self, place, hplace, hfirst⟩
      · have hframe : between.entry? path = t.entry? path := by
          rw [hput, FileTree.entry?_put_other hfirst]
        rw [← hframe] at hpath
        obtain ⟨later, hlater, place', hplace', heq⟩ :=
          ih (fun s' hs' => hnames s' (List.mem_cons_of_mem s hs')) h path hpath
        obtain ⟨_, hfree, hput', -⟩ := FileTree.exists_place_of_write hwrite
        have hstays : between.walkToFolder (t.start folder) (Path.segments folder) = .ok place := by
          rw [hput']
          exact FileTree.walk_put hfree hplace
        have hstart : between.start folder = t.start folder := by rw [hput']; rfl
        obtain rfl : place' = place := by
          rw [hstart, hstays] at hplace'
          exact (Except.ok.inj hplace').symm
        exact ⟨later, List.mem_cons_of_mem s hlater, place', hplace, heq⟩

end

/-! ## Generated names -/

/-- How a companion and its source are named after their subject: the name is an identifier exactly if
    the subject's is, or if the suffix is one and there is no subject's name, and it is a keyword only
    under a suffix in small letters. The hint name is a name unless a slash is in the subject's. -/
structure NamedAfter (s : SubjectDecl) (o : Options) (source : GeneratedSource) : Prop where
  companion : (s.model.proxy o).name = s.name ++ o.proxySuffix
  hint : source.hintName = (s.model.proxy o).name ++ ".g.cs"
  isValid_iff : Identifier.isValid (s.model.proxy o).name = true
    ↔ Identifier.isValid s.name = true ∨ s.name = "" ∧ Identifier.isValid o.proxySuffix = true
  isLower_of_keyword : (s.model.proxy o).name ∈ Identifier.keywords →
    ∀ c ∈ o.proxySuffix.toList, c.isLower = true
  isName_iff : FileTree.IsName source.hintName ↔ '/' ∉ s.name.toList

theorem namedAfter_of_generate {s : SubjectDecl} {o : Options} {source : GeneratedSource}
    (hsuffix : Identifier.isSuffix o.proxySuffix = true)
    (h : s.model.generate o = .source source) : NamedAfter s o source := by
  have hname : (s.model.proxy o).name = s.name ++ o.proxySuffix := by
    rw [SubjectModel.proxy, s.subject_model]
    rfl
  have hhint : source.hintName = (s.model.proxy o).name ++ ".g.cs" := by
    rw [SubjectModel.generate] at h
    split at h
    · cases h
    · split at h
      · cases h
      · cases h
        rfl
  refine ⟨hname, hhint, ?_, ?_, ?_⟩
  · rw [hname]
    exact Identifier.isValid_append hsuffix
  · rw [hname]
    exact Identifier.isLower_of_keyword
  · rw [hhint, hname, isName_file_iff, String.toList_append, List.mem_append]
    simp [Identifier.slash_not_mem_of_isSuffix hsuffix]

/-- **Under resolved options, sources are named after their subjects**, and sources of subjects without
    a slash in their names are written right into their folder and nowhere else, whether they are all
    written or not. Unless they are refused for a clash, and then nothing is changed, the folder is made
    first, and what differs from the tree with the folder is the file of one of them. -/
theorem generated_names {config : Option Config} {flag : Bool} {o : Options}
    (h : Options.resolve config flag = .ok o) :
    (∀ (s : SubjectDecl) (source : GeneratedSource), s.model.generate o = .source source →
      NamedAfter s o source)
      ∧ ∀ (subjects : List SubjectDecl) (sources : List GeneratedSource),
        (∀ source ∈ sources, ∃ s ∈ subjects, s.model.generate o = .source source) →
        (∀ s ∈ subjects, '/' ∉ s.name.toList) →
        ∀ (folder : String) (outcome : Except OutputError (List String)) (t t' : FileTree),
          (writeSources folder sources : Writing (StateM FileTree) _).exec t = (outcome, t') →
          (∃ hintName first second, outcome = .error (.duplicate hintName first second) ∧ t' = t)
            ∨ ∃ made answer, t.makeFolders folder = (made, answer)
              ∧ (∀ paths, outcome = .ok paths → answer = .ok ())
              ∧ ∀ path, t'.entry? path ≠ made.entry? path → ∃ source ∈ sources, ∃ place,
                made.walkToFolder (made.start folder) (Path.segments folder) = .ok place
                  ∧ path = place ++ [source.hintName] := by
  have hnamed : ∀ (s : SubjectDecl) (source : GeneratedSource),
      s.model.generate o = .source source → NamedAfter s o source :=
    fun s source => namedAfter_of_generate (isSuffix_of_resolve h)
  refine ⟨hnamed, ?_⟩
  intro subjects sources hsources hslash folder outcome t t' hdone
  have hname : ∀ source ∈ sources, FileTree.IsName source.hintName := by
    intro source hsource
    obtain ⟨s, hs, hgenerate⟩ := hsources source hsource
    exact (hnamed s source hgenerate).isName_iff.mpr (hslash s hs)
  refine (exists_store_of_exec_writeSources hdone).imp_right ?_
  rintro ⟨made, answer, hmade, hanswer, written, hwritten, hstore⟩
  refine ⟨made, answer, hmade, hanswer, fun path hpath => ?_⟩
  obtain ⟨source, hsource, hplace⟩ :=
    store_inside (fun source hsource => hname source (hwritten.subset hsource)) hstore path hpath
  exact ⟨source, hwritten.subset hsource, hplace⟩

/-- A class in no namespace. -/
def plainClass (name : String) : SubjectDecl :=
  { SubjectDecl.ofName name none with reference := name }

theorem generate_plainClass (name : String) (o : Options) :
    (plainClass name).model.generate o = .source ((plainClass name).model.source o) :=
  SubjectDecl.generate_of_sourced rfl o

theorem resolve_default : Options.resolve none false = .ok {} := by
  decide +kernel

/-- The companion of the user is named by a legal name, and nothing is written but its own file. -/
theorem generated_names_user :
    Options.resolve none false = .ok {}
      ∧ Identifier.isValid ((plainClass "User").model.proxy {}).name = true
      ∧ ((plainClass "User").model.proxy {}).name ∉ Identifier.keywords
      ∧ FileTree.IsName ((plainClass "User").model.source {}).hintName
      ∧ ∃ made t', bareTree.makeFolders "out" = (made, .ok ())
        ∧ (writeSources "out" [(plainClass "User").model.source {}] :
            Writing (StateM FileTree) _).exec bareTree = (.ok ["out/UserProxy.g.cs"], t')
        ∧ ∀ path, t'.entry? path ≠ made.entry? path → path = ["w", "out", "UserProxy.g.cs"] := by
  obtain ⟨hnamed, hwritten⟩ := generated_names resolve_default
  have huser := hnamed (plainClass "User") _ (generate_plainClass "User" {})
  refine ⟨resolve_default, huser.isValid_iff.mpr (.inl ?_), fun hmem => ?_, huser.isName_iff.mpr ?_,
    ?_⟩
  · decide +kernel
  · exact absurd (huser.isLower_of_keyword hmem 'P' (by decide)) (by decide)
  · decide
  · obtain ⟨made, hmade⟩ : ∃ made, bareTree.makeFolders "out" = (made, .ok ()) := ⟨_, rfl⟩
    obtain ⟨t', hdone⟩ : ∃ t', (writeSources "out" [(plainClass "User").model.source {}] :
        Writing (StateM FileTree) _).exec bareTree = (.ok ["out/UserProxy.g.cs"], t') :=
      ⟨_, exec_writeSources_eq_ok.mpr ⟨by decide, by decide, _, rfl, rfl⟩⟩
    refine ⟨made, t', hmade, hdone, fun path hpath => ?_⟩
    rcases hwritten [plainClass "User"] _ (by simpa using generate_plainClass "User" {})
      (by decide) "out" _ _ _ hdone with ⟨_, _, _, herror, -⟩ | ⟨made', _, hmade', -, hinside⟩
    · cases herror
    · obtain rfl : made = made' := congrArg Prod.fst (hmade.symm.trans hmade')
      obtain ⟨source, hsource, place, hplace, rfl⟩ := hinside path hpath
      cases hmade
      obtain rfl := List.mem_singleton.mp hsource
      obtain rfl : place = ["w", "out"] := (Except.ok.inj hplace).symm
      rfl

/-- **Without conditions on the subject's name, neither holds**: a source is generated for a class whose
    name climbs out of the folder, and it is written there; and a suffix makes a keyword of a class's
    name that is an identifier. -/
theorem names_unchecked :
    (∃ (source : GeneratedSource) (t' : FileTree), Options.resolve none false = .ok {}
      ∧ (plainClass "../X").model.generate {} = .source source
      ∧ Identifier.isValid ((plainClass "../X").model.proxy {}).name = false
      ∧ '/' ∈ source.hintName.toList
      ∧ (writeSources "out" [source] : Writing (StateM FileTree) _).exec bareTree
        = (.ok ["out/../XProxy.g.cs"], t')
      ∧ t'.entry? ["w", "XProxy.g.cs"] = some (.file (some source.text))
      ∧ t'.entry? ["w", "out", "XProxy.g.cs"] = none)
    ∧ ∃ (o : Options) (source : GeneratedSource),
      Options.resolve (some { proxySuffix := some "or" }) false = .ok o
        ∧ (plainClass "f").model.generate o = .source source
        ∧ Identifier.isValid "f" = true
        ∧ ((plainClass "f").model.proxy o).name ∈ Identifier.keywords := by
  constructor
  · refine ⟨_, _, resolve_default, generate_plainClass "../X" {}, ?_, ?_,
      exec_writeSources_eq_ok.mpr ⟨?_, ?_, _, rfl, rfl⟩, ?_, ?_⟩
    · decide +kernel
    · decide
    · decide
    · decide
    · rfl
    · rfl
  · refine ⟨{ proxySuffix := "or" }, _, ?_, generate_plainClass "f" _, ?_, ?_⟩
    · decide +kernel
    · decide +kernel
    · decide

end Companion
