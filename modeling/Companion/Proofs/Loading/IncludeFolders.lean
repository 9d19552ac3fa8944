import Companion.Proofs.Loading.Marks

/-!
# More include folders

An import is looked for in the importer's own folder first, and then in the include folders one after
another. What was found keeps being found when more folders stand behind the others, and it is the
same file. So a loader with more include folders does all that it does without them, in the same
order and with the same outcome, *as long as nothing fails*: an import that led nowhere may lead
somewhere in one of the new folders.

The fact about single imports is `destination_append`. All other steps do not look at the include
folders at all, so what remains is that success with fewer folders carries over to what steps are made
of (`Conservative`).
-/

namespace Companion

namespace Loader

open Loading

/-- The loader with more include folders behind its own. -/
def widened (more : List String) (l : Loader) : Loader :=
  { l with includeDirs := l.includeDirs ++ more }

/-- What the step does with success, it does with more include folders as well. -/
def Conservative {α : Type} (x : Loading Id α) : Prop :=
  ∀ more l a l', x.exec l = (.ok a, l') → x.exec (l.widened more) = (.ok a, l'.widened more)

section

variable {α β : Type}

/-- A step that changes nothing and does not look at what is loaded. -/
theorem conservative_of_exec {x : Loading Id α} {outcome : Except LoadError α}
    (h : ∀ l, x.exec l = (outcome, l)) : Conservative x := by
  intro more l a l' hexec
  rw [h] at hexec
  obtain ⟨rfl, rfl⟩ := Prod.mk.inj hexec
  exact h _

theorem Conservative.bind {x : Loading Id α} {f : α → Loading Id β} (hx : Conservative x)
    (hf : ∀ a, Conservative (f a)) : Conservative (x >>= f) := by
  intro more l b l' hexec
  obtain ⟨a, between, hfirst, hsecond⟩ := exec_bind_eq_ok.mp hexec
  exact exec_bind_eq_ok.mpr
    ⟨a, between.widened more, hx more l a between hfirst, hf a more between b l' hsecond⟩

theorem Conservative.forM {f : α → Loading Id Unit} (hf : ∀ a, Conservative (f a)) (as : List α) :
    Conservative (as.forM f) := by
  induction as with
  | nil => exact conservative_of_exec fun _ => rfl
  | cons a rest ih => exact (hf a).bind fun _ => ih

end

/-! ## Steps -/

theorem conservative_register (manifest : Manifest) :
    Conservative (register manifest : Loading Id Unit) := by
  intro more l _ l' hexec
  obtain ⟨merger, hmerger, rfl⟩ := register_eq_ok hexec
  simp only [exec_register, widened, hmerger]

theorem conservative_parse (origin text : String) :
    Conservative (parse origin text : Loading Id Manifest) :=
  conservative_of_exec (exec_parse origin text)

theorem candidates_append (includeDirs more : List String) (folder : Option String)
    (path : String) :
    ({ includeDirs := includeDirs ++ more } : Loader).candidates folder path
      = ({ includeDirs } : Loader).candidates folder path ++ more.map (Path.join · path) := by
  simp [candidates]

section

variable [Files Id]

/-- An import that is found stays what it is: the new folders are looked into last. -/
theorem destination_append {includeDirs : List String} {importer : Option String}
    {path file : String} (h : destination includeDirs importer path = .ok file)
    (more : List String) : destination (includeDirs ++ more) importer path = .ok file := by
  unfold destination at h ⊢
  split at h
  · next found hfound =>
    rw [candidates_append, List.find?_append, hfound]
    exact h
  · exact absurd h (by simp)

theorem conservative_resolveImport (importer : Option String) (path : String) :
    Conservative (resolveImport importer path : Loading Id String) := by
  intro more l file l' hexec
  rw [exec_resolveImport] at hexec
  obtain ⟨hfile, rfl⟩ := Prod.mk.inj hexec
  rw [exec_resolveImport]
  exact congrArg (·, l.widened more) (destination_append hfile more)

theorem conservative_imports {load : String → Loading Id Unit}
    (hload : ∀ file, Conservative (load file)) (importer : Option String) (imports : List String) :
    Conservative (imports.forM fun i => do load (← resolveImport importer i)) :=
  .forM (fun i => (conservative_resolveImport importer i).bind hload) imports

theorem conservative_loadNew {depth : Nat}
    (hload : ∀ path, Conservative (loadFileWithin depth path : Loading Id Unit))
    (path file : String) : Conservative (loadNew depth path file) := by
  refine (conservative_of_exec (exec_read path)).bind fun text => ?_
  refine (conservative_parse path text).bind fun manifest => ?_
  exact (conservative_imports hload (some file) manifest.imports).bind fun _ =>
    conservative_register manifest

/-- The induction is on how deep imports may nest. Which files were met does not depend on the
    include folders, so the file is new in one loader exactly if it is new in the other. -/
theorem conservative_loadFileWithin (depth : Nat) (path : String) :
    Conservative (loadFileWithin depth path : Loading Id Unit) := by
  induction depth generalizing path with
  | zero => exact conservative_of_exec (exec_loadFileWithin_zero path)
  | succ depth ih =>
    intro more l _ l' hexec
    rw [exec_loadFileWithin_succ] at hexec ⊢
    cases hpath : Disk.canonical path with
    | error cause =>
      rw [hpath] at hexec
      exact absurd (congrArg Prod.fst hexec) (by simp)
    | ok file =>
      simp only [hpath] at hexec ⊢
      show (if file ∈ l.met then _ else _) = _
      by_cases hmet : file ∈ l.met
      · rw [if_pos hmet] at hexec ⊢
        obtain rfl : l = l' := congrArg Prod.snd hexec
        rfl
      · rw [if_neg hmet] at hexec ⊢
        exact conservative_loadNew ih path file more (l.mark file) () l' hexec

theorem conservative_loadFile (path : String) : Conservative (loadFile path : Loading Id Unit) :=
  conservative_loadFileWithin (Disk.pathBound + 1) path

theorem conservative_loadText (origin text : String) :
    Conservative (loadText origin text : Loading Id Unit) := by
  refine (conservative_parse origin text).bind fun manifest => ?_
  exact (conservative_imports conservative_loadFile none manifest.imports).bind fun _ =>
    conservative_register manifest

/-! ## Calls -/

theorem Call.conservative (c : Call) : Conservative (c.run : Loading Id Unit) := by
  cases c with
  | file path => exact conservative_loadFile path
  | text origin contents => exact conservative_loadText origin contents

/-- Calls that all succeed are answered alike, and lead to the same loader but for its folders. -/
theorem after_widened {l : Loader} {calls : List Call}
    (h : ∀ answer ∈ l.answers calls, answer = .ok ()) (more : List String) :
    (l.widened more).answers calls = l.answers calls
      ∧ (l.widened more).after calls = (l.after calls).widened more := by
  induction calls generalizing l with
  | nil => exact ⟨rfl, rfl⟩
  | cons c rest ih =>
    have hanswer : (c.run.exec l).1 = .ok () := h _ List.mem_cons_self
    have hcall : c.run.exec (l.widened more) = (.ok (), (c.run.exec l).2.widened more) :=
      c.conservative more l () (c.run.exec l).2 (Prod.ext hanswer rfl)
    obtain ⟨hanswers, hafter⟩ := ih fun answer hmem => h answer (List.mem_cons_of_mem _ hmem)
    rw [answers, answers, after, after, hcall, hanswer]
    exact ⟨congrArg (Except.ok () :: ·) hanswers, hafter⟩

/-- **More include folders take nothing away.** Calls that all succeed also succeed on a loader with
    more folders behind its own. It then met the same files, registered the same manifests and merged
    the same subjects, in the same order. -/
theorem serves_with_more_folders {includeDirs : List String} {calls : List Call}
    (h : ∀ answer ∈ answers { includeDirs } calls, answer = .ok ()) (more : List String) :
    (∀ answer ∈ answers { includeDirs := includeDirs ++ more } calls, answer = .ok ())
      ∧ (after { includeDirs := includeDirs ++ more } calls).met = (after { includeDirs } calls).met
      ∧ (after { includeDirs := includeDirs ++ more } calls).manifests
        = (after { includeDirs } calls).manifests
      ∧ (after { includeDirs := includeDirs ++ more } calls).subjects
        = (after { includeDirs } calls).subjects := by
  obtain ⟨hanswers, hafter⟩ := after_widened h more
  rw [widened] at hanswers hafter
  rw [hanswers, hafter]
  exact ⟨h, rfl, rfl, rfl⟩

end

/-- A file that imports another one by its name, and two folders with a file of that name. -/
def shelves : FileTree where
  entries :=
    [(["w"], .folder), (["w", "a"], .file (some importingText)),
      (["w", "near"], .folder), (["w", "near", "b"], .file (some importingText)),
      (["w", "far"], .folder), (["w", "far", "b"], .file (some importingText))]
  home := ["w"]

/-- What the two calls lead to with the near folder alone: the file, the near one that it imports,
    and the manifest that is in no file and imports the near one, too. -/
theorem answers_shelves :
    letI := shelves.frozen
    answers { includeDirs := ["near"] } [.file "a", .text "inline" importingText]
        = [.ok (), .ok ()]
      ∧ (after { includeDirs := ["near"] } [.file "a", .text "inline" importingText]).met
        = ["/w/a", "/w/near/b"]
      ∧ (after { includeDirs := ["near"] } [.file "a", .text "inline" importingText]).manifests.length
        = 3 := by
  let files := shelves.frozen
  have ha : Disk.canonical "a" = .ok "/w/a" := by decide +kernel
  have hb : Disk.canonical "/w/near/b" = .ok "/w/near/b" := by decide +kernel
  have hreadA : Disk.read "a" = .ok importingText := by decide +kernel
  have hreadB : Disk.read "/w/near/b" = .ok importingText := by decide +kernel
  have hfromA : destination ["near"] (some "/w/a") "b" = .ok "/w/near/b" := by decide +kernel
  have hfromB : destination ["near"] (some "/w/near/b") "b" = .ok "/w/near/b" := by decide +kernel
  have hfromText : destination ["near"] none "b" = .ok "/w/near/b" := by decide +kernel
  have hbound : Disk.pathBound = 7 := rfl
  simp [after, answers, Call.run, exec_bind, exec_loadFile, exec_loadFileWithin_succ, loadNew,
    loadText, exec_read, exec_parse, exec_register, loadImports, exec_resolveImport, mark,
    Except.mapError, Merger.addAll, Merger.offer, Merger.get?, Merger.update, SubjectDecl.join,
    SubjectDecl.mismatch?, parse_importingText, ha, hb, hreadA, hreadB, hfromA, hfromB, hfromText, hbound]

/-- With the far folder behind the near one, the imports still mean the near file. -/
theorem serves_shelves_with_more_folders :
    letI := shelves.frozen
    let calls := [Call.file "a", .text "inline" importingText]
    (∀ answer ∈ answers { includeDirs := ["near"] } calls, answer = .ok ())
      ∧ (∀ answer ∈ answers { includeDirs := ["near", "far"] } calls, answer = .ok ())
      ∧ (after { includeDirs := ["near", "far"] } calls).met = ["/w/a", "/w/near/b"]
      ∧ (after { includeDirs := ["near", "far"] } calls).manifests.length = 3 := by
  let files := shelves.frozen
  obtain ⟨hanswers, hmet, hmanifests⟩ := answers_shelves
  have hsucceed : ∀ answer ∈ answers { includeDirs := ["near"] }
      [.file "a", .text "inline" importingText], answer = .ok () := by
    rw [hanswers]
    simp
  obtain ⟨hall, hmet', hmanifests', -⟩ := serves_with_more_folders hsucceed ["far"]
  exact ⟨hsucceed, hall, hmet'.trans hmet, (congrArg List.length hmanifests').trans hmanifests⟩

end Loader

end Companion
